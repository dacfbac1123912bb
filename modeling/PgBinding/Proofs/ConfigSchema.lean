import Mathlib
import PgBinding.Cli.Config
import PgBinding.Proofs.Precedence
/-!
# What a configuration file may say

A configuration file is a TOML document whose values are read into typed settings the way serde
reads them. This module says, key by key and without the reader's fold, which documents are read
and into what configuration.

A struct takes named values: a table gives its entries under their keys, an array gives its items
under the struct's field names in order, and a date reads as a table with one private key. The
named values are accepted when every name is a field (or the struct skips unknown names) and every
field's value fits it (`Toml.Item.fields?`). Each field then holds the last value given for it, or
its default when none is given (`Toml.lastNamed`).

The configuration is strict at its top level and in `[parse]` and `[split]`, and lenient in
`[deparse]`, where a key that names no option is skipped. `Cli.Config.ofToml_eq_ok_iff` is the
statement for every text; `Cli.Config.misspelt_deparse_key_skipped` shows the leniency at one
document.
-/
namespace PgBinding
namespace Toml

/-! ## Named values -/

/-- The item under the last of the named values called `name`. -/
def lastNamed (nv : List (String × Item)) (name : String) : Option Item :=
  (nv.reverse.find? (·.1 == name)).map (·.2)

theorem lastNamed_cons (p : String × Item) (nv : List (String × Item)) (name : String) :
    lastNamed (p :: nv) name = (lastNamed nv name).or (if p.1 = name then some p.2 else none) := by
  unfold lastNamed
  rw [List.reverse_cons, List.find?_append, Option.map_or]
  by_cases h : p.1 = name <;> simp [h]

/-- A setting as named values give it: read from the last value given for `key`, or `default`
when none is given or that value does not fit. -/
def setting {α : Type} (nv : List (String × Item)) (key : String) (read : Item → Option α)
    (default : α) : α :=
  ((lastNamed nv key).bind read).getD default

theorem map_getD_eq_setting {α : Type} (nv : List (String × Item)) (key : String)
    (read : Item → Option α) (default : α) :
    ((lastNamed nv key).map fun x => (read x).getD default).getD default =
      setting nv key read default := by
  unfold setting
  cases lastNamed nv key <;> rfl

namespace Item

/-- A value that holds nothing: an empty table or array. -/
def isEmpty : Item → Bool
  | .array [] _ | .tables [] _ | .table [] _ _ => true
  | _ => false

/-- A boolean. -/
def bool? : Item → Option Bool
  | .boolean b _ => some b
  | _ => none

/-- An unsigned 32-bit integer: an integer from 0 up to, not including, 2^32. -/
def u32? : Item → Option UInt32
  | .integer i _ => if 0 ≤ i ∧ i < 2 ^ 32 then some (UInt32.ofNat i.toNat) else none
  | _ => none

/-- A string. -/
def string? : Item → Option String
  | .string s _ => some s
  | _ => none

/-- A unit variant among `names`: its name as a string, or a table whose only key is its name,
over an empty table or array. -/
def variant? (names : List String) : Item → Option String
  | .string s _ => if s ∈ names then some s else none
  | .table [(k, x)] _ _ => if k.name ∈ names ∧ x.isEmpty then some k.name else none
  | _ => none

/-- A sequence: an array, or an array of tables, every item of which `item` reads. -/
def list? {α : Type} (item : Item → Option α) : Item → Option (List α)
  | .array items _ | .tables items _ => items.mapM item
  | _ => none

/-- The named values an item gives a struct with `fields`: a table's entries under their keys'
names, an array's items under the fields' names in order (items past the last field are left
over), and a date as a table whose only key is private. -/
def namedValues (fields : List String) : Item → Option (List (String × Item))
  | .table es _ _ => some (es.map fun e => (e.1.name, e.2))
  | .array items _ | .tables items _ => some (fields.zip items)
  | .datetime s => some [(datetimeField, .datetime s)]
  | _ => none

/-- Whether a named value suits a struct: a field's value fits it, and a name that is no field is
allowed only when the struct is lenient. -/
def Suits (fields : List String) (strict : Bool) (fits : String → Item → Bool)
    (p : String × Item) : Bool :=
  if p.1 ∈ fields then fits p.1 p.2 else !strict

/-- The named values an item gives a struct, when every one of them suits it. -/
def fields? (fields : List String) (strict : Bool) (fits : String → Item → Bool) (v : Item) :
    Option (List (String × Item)) :=
  (v.namedValues fields).filter fun nv => nv.all (Suits fields strict fits)

end Item

/-! ## Reading a value as the setting it stands for -/

variable {σ : Type} {k : Option Key} {v : Item}

theorem readBool_eq_ok_iff (b : Bool) : readBool k v = .ok b ↔ v.bool? = some b := by
  cases v <;> simp [readBool, Item.bool?]

theorem readUInt32_eq_ok_iff (n : UInt32) : readUInt32 k v = .ok n ↔ v.u32? = some n := by
  cases v with
  | integer i s =>
    have hbound : Int.pow 2 32 = 2 ^ 32 := rfl
    simp only [readUInt32, Item.u32?, hbound]
    split_ifs <;> simp
  | _ => simp [readUInt32, Item.u32?]

theorem readPath_eq_ok_iff (s : String) : readPath k v = .ok s ↔ v.string? = some s := by
  cases v <;> simp [readPath, Item.string?]

theorem unitVariant_eq_ok_iff (outer : Option Span) (x : Item) :
    unitVariant outer x = .ok () ↔ x.isEmpty = true := by
  unfold unitVariant
  split <;> simp_all [Item.isEmpty]

theorem readVariant_eq_ok_iff (names : List String) (s : String) :
    readVariant names k v = .ok s ↔ v.variant? names = some s := by
  cases v with
  | string name span =>
    simp only [readVariant, Item.variant?, List.contains_iff_mem]
    split_ifs <;> simp
  | table es form span =>
    rcases es with _ | ⟨⟨vk, vv⟩, _ | ⟨e, rest⟩⟩
    · simp [readVariant, Item.variant?]
    · -- the variant's name as the only key: its value must be empty
      simp only [readVariant, Item.variant?, List.contains_iff_mem]
      by_cases hname : vk.name ∈ names
      · have hunit := unitVariant_eq_ok_iff (spanFor k (.table [(vk, vv)] form span)) vv
        rcases hu : unitVariant (spanFor k (.table [(vk, vv)] form span)) vv with err | ⟨⟩
        · have hempty : vv.isEmpty = false := by simpa [hu] using hunit
          simp [hname, hempty, bind, Except.bind]
        · have hempty : vv.isEmpty = true := by simpa [hu] using hunit
          simp [hname, hempty, bind, Except.bind, pure, Except.pure]
      · simp [hname]
    · simp [readVariant, Item.variant?]
  | _ => simp [readVariant, Item.variant?]

/-- A traversal into `Except` and one into `Option` succeed alike when each element does. -/
theorem mapM_eq_ok_iff_mapM_eq_some {α β : Type} (f : α → Except Error β) (g : α → Option β)
    (hfg : ∀ a b, f a = .ok b ↔ g a = some b) (xs : List α) (ys : List β) :
    xs.mapM f = .ok ys ↔ xs.mapM g = some ys := by
  induction xs generalizing ys with
  | nil => simp [pure, Except.pure]
  | cons x xs ih =>
    rw [List.mapM_cons, List.mapM_cons, bind_eq_ok_iff]
    simp only [bind_eq_ok_iff, hfg, ih, pure, Except.pure, Except.ok.injEq, Option.bind_eq_bind,
      Option.bind_eq_some_iff, Option.some.injEq]

theorem readList_eq_ok_iff {α : Type} (item : Option Key → Item → Except Error α)
    (read : Item → Option α) (hitem : ∀ x a, item none x = .ok a ↔ read x = some a)
    (as : List α) : readList item k v = .ok as ↔ v.list? read = some as := by
  cases v <;> simp [readList, Item.list?, mapM_eq_ok_iff_mapM_eq_some _ _ hitem]

/-! ## Reading a struct -/

section Struct

variable (fields : List String) (strict : Bool) (fits : String → Item → Bool)
  (put : String → Item → σ → σ)

/-- A struct with each suiting named value put in, in order; a name that is no field changes
nothing. -/
def putAll (init : σ) (nv : List (String × Item)) : σ :=
  nv.foldl (fun s p => if p.1 ∈ fields then put p.1 p.2 s else s) init

/-- Reading named values one by one succeeds exactly when every one suits the struct, and gives
the struct with all of them put in. -/
theorem foldlM_eq_ok_iff {β : Type} (named : β → String × Item) (step : σ → β → Except Error σ)
    (l : List β) (hstep : ∀ s, ∀ b ∈ l, ∀ t, step s b = .ok t ↔
      Item.Suits fields strict fits (named b) = true ∧
        t = if (named b).1 ∈ fields then put (named b).1 (named b).2 s else s)
    (init t : σ) :
    l.foldlM step init = .ok t ↔
      (l.map named).all (Item.Suits fields strict fits) = true ∧
        t = putAll fields put init (l.map named) := by
  induction l generalizing init with
  | nil => simp [putAll, pure, Except.pure, eq_comm]
  | cons b l ih =>
    have hrest := ih fun s b' hb' => hstep s b' (List.mem_cons_of_mem b hb')
    rw [List.foldlM_cons, bind_eq_ok_iff]
    simp only [hstep _ b List.mem_cons_self, hrest, List.map_cons, List.all_cons,
      Bool.and_eq_true, putAll, List.foldl_cons]
    constructor
    · rintro ⟨s, ⟨hsuits, rfl⟩, hall, rfl⟩
      exact ⟨⟨hsuits, hall⟩, rfl⟩
    · rintro ⟨⟨hsuits, hall⟩, rfl⟩
      exact ⟨_, ⟨hsuits, rfl⟩, hall, rfl⟩

/-- The struct read from a value: the value's named values must all suit it, and each is put in,
in order. The fields' reader says when a value fits a field and what putting it in does; the
private key a date is read under must be no field. -/
theorem readStruct_eq_ok_iff (name : String) (init : σ)
    (field : String → Option Key → Item → σ → Except Error σ)
    (hfield : ∀ f ∈ fields, ∀ k x s t, field f k x s = .ok t ↔ fits f x = true ∧ t = put f x s)
    (hdate : datetimeField ∉ fields) (t : σ) :
    readStruct name fields strict init field k v = .ok t ↔
      ∃ nv, v.fields? fields strict fits = some nv ∧ t = putAll fields put init nv := by
  cases v with
  | table es form span =>
    simp only [readStruct, Item.fields?, Item.namedValues, Option.filter_eq_some_iff,
      Option.some.injEq, and_assoc, exists_eq_left']
    refine foldlM_eq_ok_iff fields strict fits put (fun e => (e.1.name, e.2)) _ es ?_ init t
    intro s e _ t
    by_cases hmem : e.1.name ∈ fields
    · simp [hmem, Item.Suits, hfield _ hmem]
    · have hout : fields.contains e.1.name = false := by simpa using hmem
      cases strict
      · simp only [hout, Item.Suits, hmem, if_false, Bool.false_eq_true, Except.ok.injEq,
          Bool.not_false, true_and]
        exact eq_comm
      · simp [hmem, Item.Suits]
  | array items span | tables items span =>
    simp only [readStruct, Item.fields?, Item.namedValues, Option.filter_eq_some_iff,
      Option.some.injEq, and_assoc, exists_eq_left']
    rw [foldlM_eq_ok_iff fields strict fits put id _ (fields.zip items), List.map_id]
    intro s p hp t
    have hmem : p.1 ∈ fields := (List.of_mem_zip hp).1
    simp [hmem, Item.Suits, hfield _ hmem]
  | datetime span =>
    cases strict
    · simp only [readStruct, Item.fields?, Item.namedValues, Option.filter_eq_some_iff,
        Option.some.injEq, and_assoc, exists_eq_left', Bool.false_eq_true, if_false,
        Except.ok.injEq, List.all_cons, List.all_nil, Item.Suits, hdate, putAll, List.foldl_cons,
        List.foldl_nil, Bool.not_false, Bool.and_true, true_and]
      exact eq_comm
    · simp [readStruct, Item.fields?, Item.namedValues, Item.Suits, hdate]
  | _ => simp [readStruct, Item.fields?, Item.namedValues]

/-- A field of the struct holds the last value given for it, or what it held before when no value
is given for it. -/
theorem putAll_field {α : Type} (proj : σ → α) (name : String) (val : Item → α)
    (hname : name ∈ fields)
    (hput : ∀ f ∈ fields, ∀ x s, proj (put f x s) = if f = name then val x else proj s)
    (init : σ) (nv : List (String × Item)) :
    proj (putAll fields put init nv) = ((lastNamed nv name).map val).getD (proj init) := by
  induction nv generalizing init with
  | nil => rfl
  | cons p nv ih =>
    -- the head is put in first; a later value for the same field wins
    rw [putAll, List.foldl_cons, ← putAll, ih, lastNamed_cons]
    cases hlast : lastNamed nv name with
    | some x => rfl
    | none =>
      by_cases hp : p.1 = name
      · simp [hp, hname, hput _ hname]
      · by_cases hmem : p.1 ∈ fields
        · simp [hp, hmem, hput _ hmem]
        · simp [hp, hmem]

end Struct

/-- A setting read from its value and put in: it succeeds when the spec gives the value, and puts
that value in. -/
theorem bind_pure_eq_ok_iff {α : Type} {r : Except Error α} {spec : Option α}
    (hr : ∀ a, r = .ok a ↔ spec = some a) (g : α → σ) (d : α) (t : σ) :
    (r >>= fun a => pure (g a)) = .ok t ↔ spec.isSome = true ∧ t = g (spec.getD d) := by
  rw [bind_eq_ok_iff]
  simp only [hr, pure, Except.pure, Except.ok.injEq]
  cases spec <;> simp [eq_comm]

end Toml

/-! ## The configuration file -/

namespace Cli
open Toml

/-- A variant named in `names` is a name that `ofName?` knows. -/
theorem ofName?_isSome_of_variant {α : Type} {names : List String} {ofName? : String → Option α}
    (hnames : ∀ n ∈ names, (ofName? n).isSome) {v : Item} {n : String}
    (h : v.variant? names = some n) : (ofName? n).isSome := by
  apply hnames
  cases v with
  | string s span =>
    simp only [Item.variant?] at h
    split_ifs at h with hs
    exact Option.some.inj h ▸ hs
  | table es form span =>
    rcases es with _ | ⟨⟨k, x⟩, _ | ⟨e, rest⟩⟩
    · simp [Item.variant?] at h
    · simp only [Item.variant?] at h
      split_ifs at h with hk
      exact Option.some.inj h ▸ hk.1
    · simp [Item.variant?] at h
  | _ => simp [Item.variant?] at h

/-- Reading a variant and looking its name up succeeds as the spec does, whatever the fallback
for a name that cannot occur. -/
theorem readNamed_eq_ok_iff {α : Type} (names : List String) (ofName? : String → Option α)
    (hnames : ∀ n ∈ names, (ofName? n).isSome) (fallback : α) (k : Option Key) (v : Item)
    (a : α) :
    (do let n ← readVariant names k v; pure ((ofName? n).getD fallback)) = .ok a ↔
      (v.variant? names).bind ofName? = some a := by
  rw [bind_eq_ok_iff, Option.bind_eq_some_iff]
  simp only [readVariant_eq_ok_iff, pure, Except.pure, Except.ok.injEq]
  constructor
  · rintro ⟨n, hv, rfl⟩
    obtain ⟨b, hb⟩ := Option.isSome_iff_exists.1 (ofName?_isSome_of_variant hnames hv)
    exact ⟨n, hv, by rw [hb, Option.getD_some]⟩
  · rintro ⟨n, hv, hb⟩
    exact ⟨n, hv, by rw [hb, Option.getD_some]⟩

namespace Config

/-- A grammar entry point, by name. -/
def mode? (v : Item) : Option ParseMode :=
  (v.variant? (ParseMode.all.map ParseMode.name)).bind ParseMode.ofName?

/-- A parser flag, by name. -/
def flag? (v : Item) : Option ParserFlag :=
  (v.variant? (ParserFlag.all.map ParserFlag.name)).bind ParserFlag.ofName?

/-- A splitting algorithm, by name. -/
def algorithm? (v : Item) : Option SplitAlgorithm :=
  (v.variant? [SplitAlgorithm.scanner.name, SplitAlgorithm.parser.name]).bind
    SplitAlgorithm.ofName?

theorem readMode_eq_ok_iff (k : Option Key) (v : Item) (m : ParseMode) :
    readMode k v = .ok m ↔ mode? v = some m :=
  readNamed_eq_ok_iff _ _ (by decide) _ k v m

theorem readFlag_eq_ok_iff (k : Option Key) (v : Item) (f : ParserFlag) :
    readFlag k v = .ok f ↔ flag? v = some f :=
  readNamed_eq_ok_iff _ _ (by decide) _ k v f

/-! ### The `[parse]` section -/

namespace Parse

/-- The keys of the `[parse]` section. -/
def keys : List String := ["mode", "flags"]

/-- Whether a value fits a key of the `[parse]` section. -/
def fits (f : String) (x : Item) : Bool :=
  if f = "mode" then (mode? x).isSome else (x.list? flag?).isSome

/-- The `[parse]` section a value describes: its only keys are `mode` and `flags`, and each
setting is the last value given for it, or its default. -/
def of? (v : Item) : Option ParseSection :=
  (v.fields? keys true fits).map fun nv =>
    { mode := setting nv "mode" mode? .default
      flags := setting nv "flags" (Item.list? flag?) [] }

/-- Puts the value of a key of the `[parse]` section in. -/
def put (f : String) (x : Item) (s : ParseSection) : ParseSection :=
  if f = "mode" then { s with mode := (mode? x).getD .default }
  else { s with flags := (x.list? flag?).getD [] }

theorem putAll_eq (nv : List (String × Item)) :
    putAll keys put {} nv =
      { mode := setting nv "mode" mode? .default
        flags := setting nv "flags" (Item.list? flag?) [] } := by
  have hmode := putAll_field keys put ParseSection.mode "mode"
    (fun x => (mode? x).getD .default) (by decide) (by simp [keys, put]) {} nv
  have hflags := putAll_field keys put ParseSection.flags "flags"
    (fun x => (x.list? flag?).getD []) (by decide) (by simp [keys, put]) {} nv
  rw [map_getD_eq_setting] at hmode hflags
  rw [← hmode, ← hflags]

theorem read_eq_ok_iff (k : Option Key) (v : Item) (p : ParseSection) :
    readParse k v = .ok p ↔ of? v = some p := by
  have hfield : ∀ f ∈ ["mode", "flags"], ∀ k x s t,
      (if f = "mode" then do pure { s with mode := ← readMode k x }
        else do pure { s with flags := ← readList readFlag k x }) = .ok t ↔
        fits f x = true ∧ t = put f x s := by
    intro f hf k x s t
    simp only [List.mem_cons, List.not_mem_nil, or_false] at hf
    rcases hf with rfl | rfl <;> simp only [fits, put, String.reduceEq, ↓reduceIte]
    · exact bind_pure_eq_ok_iff (readMode_eq_ok_iff k x) _ _ t
    · exact bind_pure_eq_ok_iff (readList_eq_ok_iff _ _ (readFlag_eq_ok_iff none)) _ _ t
  rw [readParse, readStruct_eq_ok_iff _ true fits put _ _ _ hfield (by decide), of?,
    Option.map_eq_some_iff]
  exact exists_congr fun nv => and_congr_right fun _ => by rw [← putAll_eq]; exact eq_comm

end Parse

/-! ### The `[split]` section -/

namespace Split

/-- Whether a value fits the key of the `[split]` section. -/
def fits (_ : String) (x : Item) : Bool := (algorithm? x).isSome

/-- The algorithm of the `[split]` section a value describes: its only key is `algorithm`, and
the algorithm is the last value given for it, or the scanner. -/
def of? (v : Item) : Option SplitAlgorithm :=
  (v.fields? ["algorithm"] true fits).map fun nv => setting nv "algorithm" algorithm? .scanner

/-- Puts the value of the `[split]` section's key in. -/
def put (_ : String) (x : Item) (_ : SplitAlgorithm) : SplitAlgorithm :=
  (algorithm? x).getD .scanner

theorem read_eq_ok_iff (k : Option Key) (v : Item) (a : SplitAlgorithm) :
    readSplit k v = .ok a ↔ of? v = some a := by
  have hfield : ∀ f ∈ ["algorithm"], ∀ k x (s t : SplitAlgorithm),
      (do let name ← readVariant [SplitAlgorithm.scanner.name, SplitAlgorithm.parser.name] k x
          pure ((SplitAlgorithm.ofName? name).getD .scanner)) = .ok t ↔
        fits f x = true ∧ t = put f x s := by
    intro f _ k x s t
    rw [readNamed_eq_ok_iff _ _ (by decide)]
    show algorithm? x = some t ↔ (algorithm? x).isSome = true ∧ t = (algorithm? x).getD .scanner
    cases algorithm? x <;> simp [eq_comm]
  have hall := putAll_field ["algorithm"] put id "algorithm" (fun x => (algorithm? x).getD .scanner)
    (by decide) (by simp [put])
  rw [readSplit, readStruct_eq_ok_iff _ true fits put _ _ _ hfield (by decide), of?,
    Option.map_eq_some_iff]
  refine exists_congr fun nv => and_congr_right fun _ => ?_
  have hnv := hall .scanner nv
  rw [id, id] at hnv
  rw [← map_getD_eq_setting, ← hnv, eq_comm]

end Split

/-! ### The `[deparse]` section -/

namespace Deparse

/-- The keys of the `[deparse]` section. -/
def keys : List String :=
  ["pretty_print", "indent_size", "max_line_length", "trailing_newline", "commas_start_of_line"]

/-- Whether a value fits a key of the `[deparse]` section: the widths are 32-bit unsigned
integers, the rest booleans. -/
def fits (f : String) (x : Item) : Bool :=
  if f = "indent_size" ∨ f = "max_line_length" then x.u32?.isSome else x.bool?.isSome

/-- The deparse options a value describes: a key that names no option is skipped, and each
option is the last value given for it, or its default. -/
def of? (v : Item) : Option DeparseOptions :=
  (v.fields? keys false fits).map fun nv =>
    { prettyPrint := setting nv "pretty_print" Item.bool? true
      indentSize := setting nv "indent_size" Item.u32? 2
      maxLineLength := setting nv "max_line_length" Item.u32? 0
      trailingNewline := setting nv "trailing_newline" Item.bool? true
      commasStartOfLine := setting nv "commas_start_of_line" Item.bool? false }

/-- Puts the value of a key of the `[deparse]` section in. -/
def put (f : String) (x : Item) (s : DeparseOptions) : DeparseOptions :=
  if f = "pretty_print" then { s with prettyPrint := x.bool?.getD true }
  else if f = "indent_size" then { s with indentSize := x.u32?.getD 2 }
  else if f = "max_line_length" then { s with maxLineLength := x.u32?.getD 0 }
  else if f = "trailing_newline" then { s with trailingNewline := x.bool?.getD true }
  else { s with commasStartOfLine := x.bool?.getD false }

theorem putAll_eq (nv : List (String × Item)) :
    putAll keys put {} nv =
      { prettyPrint := setting nv "pretty_print" Item.bool? true
        indentSize := setting nv "indent_size" Item.u32? 2
        maxLineLength := setting nv "max_line_length" Item.u32? 0
        trailingNewline := setting nv "trailing_newline" Item.bool? true
        commasStartOfLine := setting nv "commas_start_of_line" Item.bool? false } := by
  have hpretty := putAll_field keys put DeparseOptions.prettyPrint "pretty_print"
    (fun x => x.bool?.getD true) (by decide) (by simp [keys, put]) {} nv
  have hindent := putAll_field keys put DeparseOptions.indentSize "indent_size"
    (fun x => x.u32?.getD 2) (by decide) (by simp [keys, put]) {} nv
  have hwidth := putAll_field keys put DeparseOptions.maxLineLength "max_line_length"
    (fun x => x.u32?.getD 0) (by decide) (by simp [keys, put]) {} nv
  have htrailing := putAll_field keys put DeparseOptions.trailingNewline "trailing_newline"
    (fun x => x.bool?.getD true) (by decide) (by simp [keys, put]) {} nv
  have hcommas := putAll_field keys put DeparseOptions.commasStartOfLine "commas_start_of_line"
    (fun x => x.bool?.getD false) (by decide) (by simp [keys, put]) {} nv
  rw [map_getD_eq_setting] at hpretty hindent hwidth htrailing hcommas
  rw [← hpretty, ← hindent, ← hwidth, ← htrailing, ← hcommas]

theorem read_eq_ok_iff (k : Option Key) (v : Item) (o : DeparseOptions) :
    readDeparse k v = .ok o ↔ of? v = some o := by
  have hfield : ∀ f ∈ keys, ∀ k x s t,
      (if f = "pretty_print" then do pure { s with prettyPrint := ← readBool k x }
        else if f = "indent_size" then do pure { s with indentSize := ← readUInt32 k x }
        else if f = "max_line_length" then do pure { s with maxLineLength := ← readUInt32 k x }
        else if f = "trailing_newline" then do pure { s with trailingNewline := ← readBool k x }
        else do pure { s with commasStartOfLine := ← readBool k x }) = .ok t ↔
        fits f x = true ∧ t = put f x s := by
    intro f hf k x s t
    simp only [keys, List.mem_cons, List.not_mem_nil, or_false] at hf
    rcases hf with rfl | rfl | rfl | rfl | rfl <;>
      simp only [fits, put, String.reduceEq, ↓reduceIte, or_self, or_false, false_or]
    · exact bind_pure_eq_ok_iff (readBool_eq_ok_iff (k := k) (v := x)) _ _ t
    · exact bind_pure_eq_ok_iff (readUInt32_eq_ok_iff (k := k) (v := x)) _ _ t
    · exact bind_pure_eq_ok_iff (readUInt32_eq_ok_iff (k := k) (v := x)) _ _ t
    · exact bind_pure_eq_ok_iff (readBool_eq_ok_iff (k := k) (v := x)) _ _ t
    · exact bind_pure_eq_ok_iff (readBool_eq_ok_iff (k := k) (v := x)) _ _ t
  unfold keys at hfield
  rw [readDeparse, readStruct_eq_ok_iff _ false fits put _ _ _ hfield (by decide), of?,
    Option.map_eq_some_iff]
  exact exists_congr fun nv => and_congr_right fun _ => by rw [← putAll_eq]; exact eq_comm

end Deparse

/-! ### The whole file -/

/-- The top-level keys of a configuration file. -/
def keys : List String := ["library", "parse", "split", "deparse"]

/-- Whether a value fits a top-level key: the library is a path, and each section is one its
schema describes. -/
def fits (f : String) (x : Item) : Bool :=
  if f = "library" then x.string?.isSome
  else if f = "parse" then (Parse.of? x).isSome
  else if f = "split" then (Split.of? x).isSome
  else (Deparse.of? x).isSome

/-- The configuration a document describes: its only top-level keys are `library`, `parse`,
`split` and `deparse`, and each setting is the last value given for it, or its default. -/
def ofEntries? (root : Entries) : Option Config :=
  ((Item.table root .header none).fields? keys true fits).map fun nv =>
    { library := (lastNamed nv "library").bind Item.string?
      parse := setting nv "parse" Parse.of? {}
      algorithm := setting nv "split" Split.of? .scanner
      deparse := setting nv "deparse" Deparse.of? {} }

/-- Puts the value of a top-level key in. -/
def put (f : String) (x : Item) (c : Config) : Config :=
  if f = "library" then { c with library := x.string? }
  else if f = "parse" then { c with parse := (Parse.of? x).getD {} }
  else if f = "split" then { c with algorithm := (Split.of? x).getD .scanner }
  else { c with deparse := (Deparse.of? x).getD {} }

theorem putAll_eq (nv : List (String × Item)) :
    putAll keys put {} nv =
      { library := (lastNamed nv "library").bind Item.string?
        parse := setting nv "parse" Parse.of? {}
        algorithm := setting nv "split" Split.of? .scanner
        deparse := setting nv "deparse" Deparse.of? {} } := by
  have hlibrary := putAll_field keys put Config.library "library" Item.string? (by decide)
    (by simp [keys, put]) {} nv
  have hparse := putAll_field keys put Config.parse "parse" (fun x => (Parse.of? x).getD {})
    (by decide) (by simp [keys, put]) {} nv
  have hsplit := putAll_field keys put Config.algorithm "split"
    (fun x => (Split.of? x).getD .scanner) (by decide) (by simp [keys, put]) {} nv
  have hdeparse := putAll_field keys put Config.deparse "deparse"
    (fun x => (Deparse.of? x).getD {}) (by decide) (by simp [keys, put]) {} nv
  rw [map_getD_eq_setting] at hparse hsplit hdeparse
  -- an absent library is no library
  have hnone : ((lastNamed nv "library").map Item.string?).getD none =
      (lastNamed nv "library").bind Item.string? := by
    cases lastNamed nv "library" <;> rfl
  rw [hnone] at hlibrary
  rw [← hlibrary, ← hparse, ← hsplit, ← hdeparse]

theorem ofTable_eq_ok_iff (root : Entries) (c : Config) :
    ofTable root = .ok c ↔ ofEntries? root = some c := by
  have hfield : ∀ f ∈ keys, ∀ k x s t,
      (if f = "library" then do pure { s with library := some (← readPath k x) }
        else if f = "parse" then do pure { s with parse := ← readParse k x }
        else if f = "split" then do pure { s with algorithm := ← readSplit k x }
        else do pure { s with deparse := ← readDeparse k x }) = .ok t ↔
        fits f x = true ∧ t = put f x s := by
    intro f hf k x s t
    simp only [keys, List.mem_cons, List.not_mem_nil, or_false] at hf
    rcases hf with rfl | rfl | rfl | rfl <;>
      simp only [fits, put, String.reduceEq, ↓reduceIte]
    · rw [bind_pure_eq_ok_iff (readPath_eq_ok_iff (k := k) (v := x)) _ ""]
      cases x.string? <;> simp
    · exact bind_pure_eq_ok_iff (Parse.read_eq_ok_iff k x) _ _ t
    · exact bind_pure_eq_ok_iff (Split.read_eq_ok_iff k x) _ _ t
    · exact bind_pure_eq_ok_iff (Deparse.read_eq_ok_iff k x) _ _ t
  unfold keys at hfield
  rw [ofTable, readStruct_eq_ok_iff _ true fits put _ _ _ hfield (by decide), ofEntries?,
    Option.map_eq_some_iff]
  exact exists_congr fun nv => and_congr_right fun _ => by rw [← putAll_eq]; exact eq_comm

/-- A configuration file is read exactly when it is a TOML document that the schema describes:
its top-level keys are `library`, `parse`, `split` and `deparse`; `[parse]` holds only `mode`
(a grammar entry point by name) and `flags` (a list of parser flags by name), `[split]` only
`algorithm` (`scanner` or `parser`), and `[deparse]` the five deparse options, each a boolean
or an unsigned 32-bit integer, with any other key skipped; every setting is the last value
given for it, or its default. -/
theorem ofToml_eq_ok_iff (text : String) (c : Config) :
    ofToml text = .ok c ↔ ∃ root, readDocument text = .ok root ∧ ofEntries? root = some c := by
  rw [ofToml, bind_eq_ok_iff]
  simp only [ofTable_eq_ok_iff]

/-- A misspelt deparse option is skipped, not refused: the file is read, with the default deparse
options. -/
theorem misspelt_deparse_key_skipped :
    (ofToml "[deparse]\nindnt_size = 4\n").toOption.map (·.deparse) = some {} := by
  decide +kernel

end Config
end Cli
end PgBinding
