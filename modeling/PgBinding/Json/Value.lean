import PgBinding.Text.Utf8
/-!
JSON values as the engine's JSON payloads are read: integers that fit 64 bits stay integers,
every other number is a double, and an object holds each key once, in key order.
-/
namespace PgBinding
namespace Json

/-- A JSON number: a non-negative integer below `2^64`, a negative integer above `-2^63`
(inclusive), or a double kept as its bits. -/
inductive Number where
  | nat (n : UInt64)
  | neg (n : Int64)
  | float (bits : UInt64)
  deriving Repr, DecidableEq

/-- A JSON value. Object members are sorted by key and keys are distinct. -/
inductive Value where
  | null
  | bool (b : Bool)
  | num (n : Number)
  | str (s : String)
  | arr (items : List Value)
  | obj (members : List (String × Value))
  deriving Repr

/-- Inserts a member into a key-sorted member list; an existing key takes the new value. -/
def insertMember (k : String) (v : Value) : List (String × Value) → List (String × Value)
  | [] => [(k, v)]
  | (k', v') :: rest =>
    if k = k' then (k, v) :: rest
    else if k < k' then (k, v) :: (k', v') :: rest
    else (k', v') :: insertMember k v rest

/-- An object from members in any order; a later duplicate key wins. -/
def Value.object (members : List (String × Value)) : Value :=
  .obj (members.foldl (fun acc (k, v) => insertMember k v acc) [])

/-- A natural number as a JSON integer (below `2^64`). -/
def Value.ofNat (n : Nat) : Value := .num (.nat (UInt64.ofNat n))

/-- An integer as a JSON integer (within the 64-bit ranges). -/
def Value.ofInt (n : Int) : Value :=
  if n ≥ 0 then .num (.nat (UInt64.ofNat n.toNat)) else .num (.neg (Int64.ofInt n))

/-- An optional text. -/
def Value.ofOption {α : Type} (f : α → Value) : Option α → Value
  | some a => f a
  | none => .null

/-- The member named `k` of an object. -/
def Value.get? (v : Value) (k : String) : Option Value :=
  match v with
  | .obj ms => ms.lookup k
  | _ => none

end Json
end PgBinding
