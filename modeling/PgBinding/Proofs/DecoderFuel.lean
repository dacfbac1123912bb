import Mathlib
import PgBinding.Tree.Parsed
/-!
# The decoder never runs out of fuel

The node decoder recurses on a fuel argument and answers "nesting too deep" when the fuel is
spent, an error the wire format's own decoder never gives. `fuelFor` hands it four units a byte
of input and eight more, and that is enough for every input (`Node.decode_ne_outOfFuel`,
`Message.decode_ne_outOfFuel`, `ParseTree.decode_ne_outOfFuel`).

The measure is the length of the input a call is given. A call hands its callee one unit of
fuel less, and each function of the mutual recursion is shown sound with the fuel
`4 * length + c` for a constant of its own: 8 for the loops over fields, 9 for a message or a
node, 10 for a value or a node's kind, 11 for a field. A callee on the same bytes has its
constant one below its caller's; the only way around the cycle (loop, field, value, message,
loop) passes a loop that read a key, at least one byte, which pays the four units the cycle
costs. Entering a body reads nothing that has to be counted.

What each function is shown to give is `Settles`: an answer other than the fuel error, whose
rest is no longer than what the function was given. It is a postcondition of a reader, and the
lemmas beside it compose it through `bind`, `map` and the wire format's field tags.
-/
namespace PgBinding

namespace Wire

/-- What a reader settles to: an error other than the decoder running out of fuel, or a value
whose rest (as `rest` finds it) is at most `n` bytes long. -/
def Settles {β : Type} (rest : β → Bytes) (n : Nat) : Except DecodeError β → Prop
  | .ok b => (rest b).length ≤ n
  | .error e => e.description ≠ "nesting too deep"

section Settles

variable {β γ : Type} {rest : β → Bytes} {rest' : γ → Bytes} {n m : Nat}
  {r : Except DecodeError β}

theorem Settles.mono (h : Settles rest n r) (hn : n ≤ m) : Settles rest m r := by
  cases r with
  | error e => exact h
  | ok b => exact Nat.le_trans h hn

theorem Settles.of_ok {b : β} (h : Settles rest n r) (hr : r = .ok b) : (rest b).length ≤ n := by
  subst hr
  exact h

/-- An error a step passes on, tagged with its field or not, is not the fuel error. -/
theorem Settles.of_error {e : DecodeError} (h : Settles rest n r) (hr : r = .error e) :
    e.description ≠ "nesting too deep" := by
  subst hr
  exact h

theorem Settles.map {f : β → γ} (h : Settles rest n r) (hf : ∀ b, rest' (f b) = rest b) :
    Settles rest' n (r.map f) := by
  cases r with
  | error e => exact h
  | ok b =>
    show (rest' (f b)).length ≤ n
    rw [hf]
    exact h

theorem Settles.bind {k : β → Except DecodeError γ} (h : Settles rest n r)
    (hk : ∀ b, (rest b).length ≤ n → Settles rest' m (k b)) : Settles rest' m (r >>= k) := by
  cases r with
  | error e => exact h
  | ok b => exact hk b h

/-- Tagging an error with its field keeps its description. -/
theorem Settles.inField {msg field : String} (h : Settles rest n r) :
    Settles rest n (inField msg field r) := by
  cases r with
  | error e => exact h
  | ok b => exact h

theorem settles_fail {d : String} (h : d ≠ "nesting too deep") :
    Settles rest n (fail d : Except DecodeError β) :=
  h

/-- A settled answer, whatever is made of its value, is not the fuel error. -/
theorem Settles.map_ne_error {f : β → γ} (h : Settles rest n r) (stack : List (String × String)) :
    r.map f ≠ .error ⟨"nesting too deep", stack⟩ := by
  cases r with
  | error e =>
    intro he
    cases he
    exact h rfl
  | ok b => exact fun he => nomatch he

end Settles

/-- A description that starts with more than sixteen characters is not the fuel error's. -/
theorem append_ne_fuelError {a : String} (b : String) (ha : 16 < a.length) :
    a ++ b ≠ "nesting too deep" := by
  intro h
  have hlen := congrArg String.length h
  rw [String.length_append] at hlen
  have : "nesting too deep".length = 16 := by decide
  omega

/-! ## Readers of single values

Each reader that reads a varint first leaves at least one byte fewer than it was given. -/

theorem readVarint_go_settles (i shift acc : Nat) (bs : Bytes) :
    Settles Prod.snd (bs.length - 1) (readVarint.go i shift acc bs) := by
  induction bs generalizing i shift acc with
  | nil => exact settles_fail (by decide)
  | cons b bs ih =>
    unfold readVarint.go
    split_ifs
    · exact settles_fail (by decide)
    · exact Nat.le_refl _
    · exact settles_fail (by decide)
    · exact (ih _ _ _).mono (by simp)

theorem readVarint_settles (bs : Bytes) : Settles Prod.snd (bs.length - 1) (readVarint bs) :=
  readVarint_go_settles 0 0 0 bs

theorem readKey_settles (bs : Bytes) : Settles Prod.snd (bs.length - 1) (readKey bs) := by
  refine (readVarint_settles bs).bind fun ⟨key, rest⟩ hrest => ?_
  dsimp only
  split_ifs
  · exact settles_fail (append_ne_fuelError _ (by decide))
  · split
    · exact settles_fail (append_ne_fuelError _ (by decide))
    · exact settles_fail (by decide)
  · split
    · exact settles_fail (append_ne_fuelError _ (by decide))
    · exact hrest

/-- A wire type check reads nothing. -/
theorem expect_settles (actual expected : WireType) :
    Settles (fun _ => []) 0 (expect actual expected) := by
  unfold expect
  split_ifs
  · exact Nat.le_refl 0
  · refine settles_fail (append_ne_fuelError _ ?_)
    simp only [String.length_append]
    have : (toString "invalid wire type: ").length = 19 := by decide
    omega

theorem readChunk_settles (bs : Bytes) : Settles Prod.snd (bs.length - 1) (readChunk bs) := by
  refine (readVarint_settles bs).bind fun ⟨len, rest⟩ hrest => ?_
  dsimp only at hrest ⊢
  split_ifs
  · exact settles_fail (by decide)
  · exact Nat.le_trans (by simp) hrest

theorem enterBody_settles (bs : Bytes) : Settles Prod.snd (bs.length - 1) (enterBody bs) := by
  refine (readVarint_settles bs).bind fun ⟨len, rest⟩ hrest => ?_
  dsimp only at hrest ⊢
  split_ifs
  · exact settles_fail (by decide)
  · exact hrest

theorem readBytes_settles (wt : WireType) (bs : Bytes) :
    Settles Prod.snd (bs.length - 1) (readBytes wt bs) :=
  (expect_settles wt .lengthDelimited).bind fun _ _ => readChunk_settles bs

theorem readText_settles (wt : WireType) (bs : Bytes) :
    Settles Prod.snd (bs.length - 1) (readText wt bs) := by
  refine (expect_settles wt .lengthDelimited).bind fun _ _ => ?_
  refine (readChunk_settles bs).bind fun ⟨chunk, rest⟩ hrest => ?_
  dsimp only
  split
  · exact hrest
  · exact settles_fail (by decide)

theorem readScalar_settles (wt : WireType) (bs : Bytes) :
    Settles Prod.snd (bs.length - 1) (readScalar wt bs) :=
  (expect_settles wt .varint).bind fun _ _ => readVarint_settles bs

theorem readInt32_settles (wt : WireType) (bs : Bytes) :
    Settles Prod.snd bs.length (readInt32 wt bs) :=
  ((readScalar_settles wt bs).map fun ⟨_, _⟩ => rfl).mono (Nat.sub_le _ _)

/-! ## Skipping unknown fields

Skipping has fuel of its own, whose end is the error of a cut-off varint: it never settles to
the decoder's fuel error. -/

mutual
theorem skipValue_settles : (fuel depth : Nat) → (wt : WireType) → (number : Nat) →
    (bs : Bytes) → Settles id bs.length (skipValue fuel depth wt number bs)
  | 0, _, _, _, _ => settles_fail (by decide)
  | fuel + 1, depth, wt, number, bs => by
    rw [skipValue.eq_def]
    dsimp only
    by_cases hd : depth = 0
    · rw [if_pos hd]
      exact settles_fail (by decide)
    rw [if_neg hd]
    -- past the depth check, each wire type is skipped by its own reader
    cases wt with
    | varint =>
      dsimp only
      exact ((readVarint_settles bs).map fun ⟨_, _⟩ => rfl).mono (Nat.sub_le _ _)
    | fixed64 =>
      dsimp only
      split_ifs
      · exact settles_fail (by decide)
      · show (bs.drop 8).length ≤ bs.length
        simp
    | lengthDelimited =>
      dsimp only
      exact ((readChunk_settles bs).map fun ⟨_, _⟩ => rfl).mono (Nat.sub_le _ _)
    | startGroup => exact skipGroup_settles fuel depth number bs
    | endGroup => exact settles_fail (by decide)
    | fixed32 =>
      dsimp only
      split_ifs
      · exact settles_fail (by decide)
      · show (bs.drop 4).length ≤ bs.length
        simp
termination_by structural fuel => fuel

theorem skipGroup_settles : (fuel depth number : Nat) → (bs : Bytes) →
    Settles id bs.length (skipGroup fuel depth number bs)
  | 0, _, _, _ => settles_fail (by decide)
  | fuel + 1, depth, number, bs => by
    rw [skipGroup]
    have hkey := readKey_settles bs
    split
    · rename_i e he
      exact hkey.of_error he
    · rename_i inner iwt rest he
      have hrest := hkey.of_ok he
      dsimp only at hrest ⊢
      split_ifs
      · exact Nat.le_trans hrest (Nat.sub_le _ _)
      · exact settles_fail (by decide)
      · have hvalue := skipValue_settles fuel (depth - 1) iwt inner rest
        split
        · rename_i e he'
          exact hvalue.of_error he'
        · rename_i rest' he'
          have hrest' := hvalue.of_ok he'
          exact (skipGroup_settles fuel depth number rest').mono (by simp at hrest' ⊢; omega)
termination_by structural fuel => fuel
end

theorem skipField_settles (depth : Nat) (wt : WireType) (number : Nat) (bs : Bytes) :
    Settles id bs.length (skipField depth wt number bs) :=
  skipValue_settles _ depth wt number bs

/-! ## Loops over fields -/

/-- A loop over fields whose steps settle on every input shorter than `m` settles on every
input of length at most `m`, with any fuel: each round reads a key before its step. -/
theorem readFields_settles {σ : Type}
    {step : σ → Nat → WireType → Bytes → Except DecodeError (σ × Bytes)} {m : Nat}
    (hstep : ∀ s n wt bs, bs.length < m → Settles Prod.snd bs.length (step s n wt bs)) :
    ∀ (fuel : Nat) (s : σ) (limit : Nat) (bs : Bytes), bs.length ≤ m →
      Settles Prod.snd bs.length (readFields step fuel s limit bs)
  | 0, _, _, _, _ => settles_fail (by decide)
  | fuel + 1, s, limit, bs, hbs => by
    rw [readFields]
    split_ifs
    · have hkey := readKey_settles bs
      split
      · rename_i e he
        exact hkey.of_error he
      · rename_i n wt rest he
        have hrest := hkey.of_ok he
        dsimp only at hrest
        have hs := hstep s n wt rest (by omega)
        split
        · rename_i e he'
          exact hs.of_error he'
        · rename_i s' rest' he'
          have hrest' := hs.of_ok he'
          dsimp only at hrest'
          exact (readFields_settles hstep fuel s' limit rest' (by omega)).mono (by omega)
    · exact Nat.le_refl _
    · exact settles_fail (by decide)

/-- A sub-message read with `step` settles when its steps settle on every input shorter than
the whole. -/
theorem readNested_settles {σ : Type} {depth : Nat} {init : σ}
    {step : Nat → σ → Nat → WireType → Bytes → Except DecodeError (σ × Bytes)} {wt : WireType}
    {bs : Bytes}
    (hstep : ∀ d s n wt bs', bs'.length < bs.length → Settles Prod.snd bs'.length (step d s n wt bs')) :
    Settles Prod.snd bs.length (readNested depth init step wt bs) := by
  refine (expect_settles wt .lengthDelimited).bind fun _ _ => ?_
  split_ifs
  · exact settles_fail (by decide)
  · refine (enterBody_settles bs).bind fun ⟨limit, rest⟩ hrest => ?_
    dsimp only at hrest ⊢
    have hsteps : ∀ s n wt bs', bs'.length < rest.length →
        Settles Prod.snd bs'.length (step (depth - 1) s n wt bs') :=
      fun s n wt bs' h => hstep _ s n wt bs' (by omega)
    exact (readFields_settles hsteps _ init limit rest le_rfl).mono (by omega)

end Wire

namespace Tree

open Wire

/-- The field a message's layout finds for a number carries that number. -/
theorem carries_of_findIdx? {k : Kind} {n i : Nat} {spec : FieldSpec}
    (hidx : k.fields.findIdx? (·.carries n) = some i) (hspec : k.fields[i]? = some spec) :
    spec.carries n = true := by
  obtain ⟨hi, hcarries, -⟩ := List.findIdx?_eq_some_iff_getElem.1 hidx
  rw [List.getElem?_eq_getElem hi, Option.some.injEq] at hspec
  rw [← hspec]
  exact hcarries

/-! ## The node decoder

One statement per function of the decoder's mutual recursion, by the same recursion on the
fuel, each with the fuel `4 * length + c` of its own constant `c`. A value is read only under a
field that carries its number, which is what keeps a oneof from looking its number up in vain. -/

mutual
theorem mergeFields_settles : (fuel depth : Nat) → (k : Kind) → (fs : List Field) →
    (limit : Nat) → (bs : Bytes) → 4 * bs.length + 8 ≤ fuel →
    Settles Prod.snd bs.length (mergeFields fuel depth k fs limit bs)
  | 0, _, _, _, _, _, h => absurd h (by omega)
  | fuel + 1, depth, k, fs, limit, bs, h => by
    rw [mergeFields]
    split_ifs
    · -- a key, at least one byte, pays for the field it names and the rest of the loop
      have hkey := readKey_settles bs
      split
      · rename_i e he
        exact hkey.of_error he
      · rename_i n wt rest he
        have hrest := hkey.of_ok he
        dsimp only at hrest
        have hfield := mergeField_settles fuel depth k fs n wt rest (by omega)
        split
        · rename_i e he'
          exact hfield.of_error he'
        · rename_i fs' rest' he'
          have hrest' := hfield.of_ok he'
          dsimp only at hrest'
          exact (mergeFields_settles fuel depth k fs' limit rest' (by omega)).mono (by omega)
    · exact Nat.le_refl _
    · exact settles_fail (by decide)
termination_by structural fuel => fuel

theorem mergeField_settles : (fuel depth : Nat) → (k : Kind) → (fs : List Field) → (n : Nat) →
    (wt : WireType) → (bs : Bytes) → 4 * bs.length + 11 ≤ fuel →
    Settles Prod.snd bs.length (mergeField fuel depth k fs n wt bs)
  | 0, _, _, _, _, _, _, h => absurd h (by omega)
  | fuel + 1, depth, k, fs, n, wt, bs, h => by
    rw [mergeField]
    split
    · exact (skipField_settles depth wt n bs).map fun _ => rfl
    · rename_i i hidx
      split
      · exact (skipField_settles depth wt n bs).map fun _ => rfl
      · rename_i spec hspec
        have hvalue := mergeValue_settles fuel depth spec (fs.getD i spec.type.default) n wt bs
          (carries_of_findIdx? hidx hspec) (by omega)
        split
        · rename_i e he
          exact (hvalue.of_error he :)
        · rename_i v rest he
          exact hvalue.of_ok he
termination_by structural fuel => fuel

theorem mergeValue_settles : (fuel depth : Nat) → (spec : FieldSpec) → (cur : Field) →
    (n : Nat) → (wt : WireType) → (bs : Bytes) → spec.carries n = true →
    4 * bs.length + 10 ≤ fuel → Settles Prod.snd bs.length (mergeValue fuel depth spec.type cur n wt bs)
  | 0, _, _, _, _, _, _, _, h => absurd h (by omega)
  | fuel + 1, depth, ⟨number, name, ty⟩, cur, n, wt, bs, hn, h => by
    -- the equations split on the value read into, so unfold the whole definition
    rw [mergeValue.eq_def]
    dsimp only
    cases ty with
    | int32 => exact ((readScalar_settles wt bs).map fun ⟨_, _⟩ => rfl).mono (Nat.sub_le _ _)
    | uint32 => exact ((readScalar_settles wt bs).map fun ⟨_, _⟩ => rfl).mono (Nat.sub_le _ _)
    | bool => exact ((readScalar_settles wt bs).map fun ⟨_, _⟩ => rfl).mono (Nat.sub_le _ _)
    | text => exact ((readText_settles wt bs).map fun ⟨_, _⟩ => rfl).mono (Nat.sub_le _ _)
    | bytes => exact ((readBytes_settles wt bs).map fun ⟨_, _⟩ => rfl).mono (Nat.sub_le _ _)
    | node => exact (mergeNode_settles fuel depth _ wt bs (by omega)).map fun ⟨_, _⟩ => rfl
    | nodes =>
      dsimp only
      split
      · rename_i e he
        exact (expect_settles wt .lengthDelimited).of_error he
      · exact (mergeNode_settles fuel depth _ wt bs (by omega)).map fun ⟨_, _⟩ => rfl
    | message k =>
      exact (mergeMessage_settles fuel depth k _ wt bs (by omega)).map fun ⟨_, _⟩ => rfl
    | choice alts =>
      dsimp only
      split
      · -- the field carries `n`, so one of its alternatives has that number
        rename_i hnone
        simp only [FieldSpec.carries, List.any_eq_true] at hn
        obtain ⟨alt, hmem, halt⟩ := hn
        exact absurd halt (by simpa using List.find?_eq_none.1 hnone alt hmem)
      · exact (mergeMessage_settles fuel depth _ _ wt bs (by omega)).map fun ⟨_, _⟩ => rfl
termination_by structural fuel => fuel

theorem mergeMessage_settles : (fuel depth : Nat) → (k : Kind) → (fs : List Field) →
    (wt : WireType) → (bs : Bytes) → 4 * bs.length + 9 ≤ fuel →
    Settles Prod.snd bs.length (mergeMessage fuel depth k fs wt bs)
  | 0, _, _, _, _, _, h => absurd h (by omega)
  | fuel + 1, depth, k, fs, wt, bs, h => by
    rw [mergeMessage]
    split
    · rename_i e he
      exact (expect_settles wt .lengthDelimited).of_error he
    · split_ifs
      · exact settles_fail (by decide)
      · have hbody := enterBody_settles bs
        split
        · rename_i e he
          exact hbody.of_error he
        · rename_i limit rest he
          have hrest := hbody.of_ok he
          dsimp only at hrest
          exact (mergeFields_settles fuel (depth - 1) k fs limit rest (by omega)).mono
            (by omega)
termination_by structural fuel => fuel

theorem mergeNode_settles : (fuel depth : Nat) → (nd : Node) → (wt : WireType) → (bs : Bytes) →
    4 * bs.length + 9 ≤ fuel → Settles Prod.snd bs.length (mergeNode fuel depth nd wt bs)
  | 0, _, _, _, _, h => absurd h (by omega)
  | fuel + 1, depth, nd, wt, bs, h => by
    rw [mergeNode]
    split
    · rename_i e he
      exact (expect_settles wt .lengthDelimited).of_error he
    · split_ifs
      · exact settles_fail (by decide)
      · have hbody := enterBody_settles bs
        split
        · rename_i e he
          exact hbody.of_error he
        · rename_i limit rest he
          have hrest := hbody.of_ok he
          dsimp only at hrest
          exact (mergeNodeFields_settles fuel (depth - 1) nd limit rest (by omega)).mono
            (by omega)
termination_by structural fuel => fuel

theorem mergeNodeFields_settles : (fuel depth : Nat) → (nd : Node) → (limit : Nat) →
    (bs : Bytes) → 4 * bs.length + 8 ≤ fuel →
    Settles Prod.snd bs.length (mergeNodeFields fuel depth nd limit bs)
  | 0, _, _, _, _, h => absurd h (by omega)
  | fuel + 1, depth, nd, limit, bs, h => by
    rw [mergeNodeFields]
    split_ifs
    · -- a key, at least one byte, pays for the kind it names and the rest of the loop
      have hkey := readKey_settles bs
      split
      · rename_i e he
        exact hkey.of_error he
      · rename_i n wt rest he
        have hrest := hkey.of_ok he
        dsimp only at hrest
        have hkind := mergeKind_settles fuel depth nd n wt rest (by omega)
        split
        · rename_i e he'
          exact hkind.of_error he'
        · rename_i nd' rest' he'
          have hrest' := hkind.of_ok he'
          dsimp only at hrest'
          exact (mergeNodeFields_settles fuel depth nd' limit rest' (by omega)).mono (by omega)
    · exact Nat.le_refl _
    · exact settles_fail (by decide)
termination_by structural fuel => fuel

theorem mergeKind_settles : (fuel depth : Nat) → (nd : Node) → (n : Nat) → (wt : WireType) →
    (bs : Bytes) → 4 * bs.length + 10 ≤ fuel →
    Settles Prod.snd bs.length (mergeKind fuel depth nd n wt bs)
  | 0, _, _, _, _, _, h => absurd h (by omega)
  | fuel + 1, depth, nd, n, wt, bs, h => by
    rw [mergeKind]
    split
    · exact (mergeMessage_settles fuel depth _ _ wt bs (by omega)).map fun ⟨_, _⟩ => rfl
    · exact ((readBytes_settles wt bs).map fun ⟨_, _⟩ => rfl).mono (Nat.sub_le _ _)
termination_by structural fuel => fuel
end

/-! ## Whole inputs -/

/-- No input decodes to the error of the fuel running out, whatever fields it would be reported
in: `fuelFor` is fuel enough for every input. -/
theorem Node.decode_ne_outOfFuel (bs : Bytes) (stack : List (String × String)) :
    Node.decode bs ≠ .error ⟨"nesting too deep", stack⟩ :=
  (mergeNodeFields_settles _ nestingLimit .empty 0 bs (by simp [fuelFor])).map_ne_error stack

theorem Message.decode_ne_outOfFuel (k : Kind) (bs : Bytes) (stack : List (String × String)) :
    Message.decode k bs ≠ .error ⟨"nesting too deep", stack⟩ :=
  (mergeFields_settles _ nestingLimit k k.blank 0 bs (by simp [fuelFor])).map_ne_error stack

theorem Statement.mergeField_settles (fuel depth : Nat) (s : Statement) (n : Nat)
    (wt : WireType) (bs : Bytes) (h : 4 * bs.length + 9 ≤ fuel) :
    Settles Prod.snd bs.length (Statement.mergeField fuel depth s n wt bs) := by
  unfold Statement.mergeField
  split
  · exact ((mergeNode_settles fuel depth _ wt bs h).map fun ⟨_, _⟩ => rfl).inField
  · exact ((readInt32_settles wt bs).map fun ⟨_, _⟩ => rfl).inField
  · exact ((readInt32_settles wt bs).map fun ⟨_, _⟩ => rfl).inField
  · exact (skipField_settles depth wt n bs).map fun _ => rfl

/-- A statement's node is read below the statement's own key, a byte further in than the
field of the tree that holds it. -/
theorem ParseTree.mergeField_settles (fuel depth : Nat) (t : ParseTree) (n : Nat)
    (wt : WireType) (bs : Bytes) (h : 4 * bs.length + 9 ≤ fuel) :
    Settles Prod.snd bs.length (ParseTree.mergeField fuel depth t n wt bs) := by
  unfold ParseTree.mergeField
  split
  · exact ((readInt32_settles wt bs).map fun ⟨_, _⟩ => rfl).inField
  · exact ((readNested_settles fun d s n wt bs' hbs' =>
      Statement.mergeField_settles fuel d s n wt bs' (by omega)).map fun ⟨_, _⟩ => rfl).inField
  · exact (skipField_settles depth wt n bs).map fun _ => rfl

theorem ParseTree.decode_ne_outOfFuel (bs : Bytes) (stack : List (String × String)) :
    ParseTree.decode bs ≠ .error ⟨"nesting too deep", stack⟩ := by
  unfold ParseTree.decode
  split_ifs
  · exact fun he => nomatch he
  · have hsteps : ∀ t n wt bs', bs'.length < bs.length →
        Settles Prod.snd bs'.length (ParseTree.mergeField (fuelFor bs) nestingLimit t n wt bs') :=
      fun t n wt bs' hbs' => ParseTree.mergeField_settles _ _ t n wt bs' (by simp [fuelFor]; omega)
    exact (readFields_settles hsteps _ {} 0 bs le_rfl).map_ne_error stack

end Tree

end PgBinding
