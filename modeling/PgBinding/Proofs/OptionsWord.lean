import Mathlib
import PgBinding.Cli.Config
import PgBinding.Proofs.Operation
/-!
# The options word

Parse options travel to the engine as one C `int`: the entry point's code masked to the low four
bits, with the flag bits or'd over it. The flags are kept raw, unknown bits and the sign bit
included, and nothing keeps them out of the low nibble: a flag bit there lands on the entry
point's code.

`options_word_layout` says what each part of the word holds for every entry point and every
flag value, when two options values give one word, when the pair reads back from the word,
which values name an entry point, that the operations taking options hand the engine the word
and use nothing else of the options, and that a configuration's flags are the union of the
flags it names. `low_flag_bit_aliases_mode` is the smallest flag value that the word confuses
with an entry point.
-/
namespace PgBinding

/-! ## Masking a word -/

theorem int32_and_or_distrib_right (a b c : Int32) : (a ||| b) &&& c = (a &&& c) ||| (b &&& c) :=
  Int32.toBitVec_inj.1 BitVec.and_or_distrib_right

theorem int32_and_or_distrib_left (a b c : Int32) : a &&& (b ||| c) = (a &&& b) ||| (a &&& c) :=
  Int32.toBitVec_inj.1 BitVec.and_or_distrib_left

/-- A word is its bits inside a mask or'd with its bits outside it. -/
theorem int32_and_or_and_not (a m : Int32) : (a &&& m) ||| (a &&& ~~~m) = a := by
  rw [← int32_and_or_distrib_left, Int32.or_not_self, Int32.and_neg_one]

/-! ## Entry points by code -/

namespace ParseMode

theorem code_and_modeMask (m : ParseMode) : m.code &&& modeMask = m.code := by
  cases m <;> decide

theorem ofCode?_code (m : ParseMode) : ofCode? m.code = some m := by
  cases m <;> rfl

theorem ofCode?_eq_some_iff (v : Int32) (m : ParseMode) : ofCode? v = some m ↔ m.code = v := by
  constructor
  · intro h
    simpa using List.find?_some h
  · rintro rfl
    exact ofCode?_code m

theorem exists_code_eq_iff (v : Int32) :
    (∃ m : ParseMode, m.code = v) ↔ 0 ≤ v.toInt ∧ v.toInt ≤ 5 := by
  constructor
  · rintro ⟨m, rfl⟩
    cases m <;> decide
  · intro hv
    have hcases : v.toInt = 0 ∨ v.toInt = 1 ∨ v.toInt = 2 ∨ v.toInt = 3 ∨ v.toInt = 4 ∨
        v.toInt = 5 := by omega
    -- the code of each entry point is told apart from the others by its integer value
    rcases hcases with h | h | h | h | h | h
    · exact ⟨.default, by rw [← Int32.toInt_inj, h]; rfl⟩
    · exact ⟨.typeName, by rw [← Int32.toInt_inj, h]; rfl⟩
    · exact ⟨.plpgsqlExpr, by rw [← Int32.toInt_inj, h]; rfl⟩
    · exact ⟨.plpgsqlAssign1, by rw [← Int32.toInt_inj, h]; rfl⟩
    · exact ⟨.plpgsqlAssign2, by rw [← Int32.toInt_inj, h]; rfl⟩
    · exact ⟨.plpgsqlAssign3, by rw [← Int32.toInt_inj, h]; rfl⟩

theorem ofCode?_eq_none_iff (v : Int32) : ofCode? v = none ↔ v.toInt < 0 ∨ 5 < v.toInt := by
  rw [Option.eq_none_iff_forall_ne_some]
  simp only [ne_eq, ofCode?_eq_some_iff]
  rw [← not_exists, exists_code_eq_iff]
  omega

theorem tryFrom_eq_ok_iff (v : Int32) (m : ParseMode) : tryFrom v = .ok m ↔ m.code = v := by
  rw [← ofCode?_eq_some_iff, tryFrom]
  cases ofCode? v <;> simp

theorem tryFrom_eq_error_iff (v : Int32) (e : Error) :
    tryFrom v = .error e ↔ (v.toInt < 0 ∨ 5 < v.toInt) ∧ e = .invalidParseMode v := by
  rw [← ofCode?_eq_none_iff, tryFrom]
  cases ofCode? v <;> simp [eq_comm]

end ParseMode

/-! ## The parts of the word -/

namespace ParseOptions

/-- The low nibble is the entry point's code or'd with the flags' low bits. -/
theorem bits_and_modeMask (o : ParseOptions) :
    o.bits &&& modeMask = o.mode.code ||| (o.flags &&& modeMask) := by
  rw [bits, int32_and_or_distrib_right, Int32.and_assoc, Int32.and_self,
    ParseMode.code_and_modeMask]

/-- Above the low nibble the word is the flags. -/
theorem bits_and_not_modeMask (o : ParseOptions) :
    o.bits &&& ~~~modeMask = o.flags &&& ~~~modeMask := by
  rw [bits, int32_and_or_distrib_right, Int32.and_assoc, Int32.and_not_self, Int32.and_zero,
    Int32.zero_or]

theorem bits_eq_bits_iff (o o' : ParseOptions) :
    o.bits = o'.bits ↔
      o.mode.code ||| (o.flags &&& modeMask) = o'.mode.code ||| (o'.flags &&& modeMask) ∧
        o.flags &&& ~~~modeMask = o'.flags &&& ~~~modeMask := by
  rw [← bits_and_modeMask, ← bits_and_modeMask, ← bits_and_not_modeMask,
    ← bits_and_not_modeMask]
  constructor
  · intro h
    rw [h]
    exact ⟨rfl, rfl⟩
  · rintro ⟨hlow, hhigh⟩
    rw [← int32_and_or_and_not o.bits modeMask, ← int32_and_or_and_not o'.bits modeMask, hlow,
      hhigh]

/-- Flags clear of the low nibble leave the entry point and the flags readable from the word. -/
theorem bits_read_back (o : ParseOptions) (h : o.flags &&& modeMask = 0) :
    ParseMode.tryFrom (o.bits &&& modeMask) = .ok o.mode ∧ o.bits &&& ~~~modeMask = o.flags := by
  have hsplit := int32_and_or_and_not o.flags modeMask
  rw [h, Int32.zero_or] at hsplit
  constructor
  · rw [bits_and_modeMask, h, Int32.or_zero, ParseMode.tryFrom_eq_ok_iff]
  · rw [bits_and_not_modeMask, hsplit]

/-- An entry point converted to options travels as its own code. -/
theorem ofMode_bits (m : ParseMode) : (ofMode m).bits = m.code := by
  show m.code &&& modeMask ||| 0 = m.code
  rw [ParseMode.code_and_modeMask, Int32.or_zero]

end ParseOptions

/-! ## Operations that take options -/

namespace Operation

variable {σ : Type}

/-- An operation reads its options through their word alone: options with one word give one
run, whatever the engine. -/
theorem exec_eq_of_bits_eq (e : Engine σ) (s : σ) (sql : String) (bytes : Bytes)
    (limit : Int32) {o o' : ParseOptions} (h : o.bits = o'.bits) :
    (parse sql o).exec e s = (parse sql o').exec e s ∧
      (parseBytes bytes o).exec e s = (parseBytes bytes o').exec e s ∧
      (parseJson sql o).exec e s = (parseJson sql o').exec e s ∧
      (fingerprint sql o).exec e s = (fingerprint sql o').exec e s ∧
      (fingerprintBytes bytes o).exec e s = (fingerprintBytes bytes o').exec e s ∧
      (summary sql o limit).exec e s = (summary sql o' limit).exec e s := by
  refine ⟨?_, ?_, ?_, ?_, ?_, ?_⟩ <;>
    simp only [exec, Parser.parse, Parser.parseBytes, Parser.parseBuffer, Parser.parseJson,
      Parser.fingerprint, Parser.fingerprintBytes, Parser.fingerprintBuffer, Parser.summary, h]

end Operation

/-! ## Flags of a configuration -/

namespace ParserFlag

/-- The word of the named flags that satisfy `p`: their bits or'd, in declaration order. -/
def word (p : ParserFlag → Prop) [DecidablePred p] : Int32 :=
  all.foldl (fun acc fl => if p fl then acc ||| fl.bit else acc) 0

theorem word_and_modeMask (p : ParserFlag → Prop) [DecidablePred p] : word p &&& modeMask = 0 := by
  by_cases h1 : p .disableBackslashQuote <;> by_cases h2 : p .disableStandardConformingStrings <;>
    by_cases h3 : p .disableEscapeStringWarning <;> simp [word, all, h1, h2, h3] <;> decide

theorem word_mem_cons (fl : ParserFlag) (l : List ParserFlag) :
    word (· ∈ fl :: l) = fl.bit ||| word (· ∈ l) := by
  cases fl <;> by_cases h1 : ParserFlag.disableBackslashQuote ∈ l <;>
    by_cases h2 : ParserFlag.disableStandardConformingStrings ∈ l <;>
    by_cases h3 : ParserFlag.disableEscapeStringWarning ∈ l <;>
    simp [word, all, h1, h2, h3] <;> decide

/-- Or-ing bits onto an accumulator is or-ing them onto zero, then the accumulator. -/
theorem foldl_or_bit (acc : Int32) (l : List ParserFlag) :
    l.foldl (fun a fl => a ||| fl.bit) acc = acc ||| l.foldl (fun a fl => a ||| fl.bit) 0 := by
  induction l generalizing acc with
  | nil => rw [List.foldl_nil, List.foldl_nil, Int32.or_zero]
  | cons fl l ih =>
    rw [List.foldl_cons, List.foldl_cons, ih, ih (0 ||| fl.bit), Int32.zero_or, Int32.or_assoc]

/-- The fold over a list of flags is the word of the flags it holds. -/
theorem foldl_or_bit_eq_word (l : List ParserFlag) :
    l.foldl (fun a fl => a ||| fl.bit) 0 = word (· ∈ l) := by
  induction l with
  | nil => simp [word, all]
  | cons fl l ih => rw [List.foldl_cons, foldl_or_bit, ih, word_mem_cons, Int32.zero_or]

end ParserFlag

/-! ## The word as a whole -/

theorem options_word_layout (o : ParseOptions) :
    o.bits &&& modeMask = o.mode.code ||| (o.flags &&& modeMask) ∧
      o.bits &&& ~~~modeMask = o.flags &&& ~~~modeMask ∧
      (∀ o' : ParseOptions, o.bits = o'.bits ↔
        o.mode.code ||| (o.flags &&& modeMask) = o'.mode.code ||| (o'.flags &&& modeMask) ∧
          o.flags &&& ~~~modeMask = o'.flags &&& ~~~modeMask) ∧
      (o.flags &&& modeMask = 0 →
        ParseMode.tryFrom (o.bits &&& modeMask) = .ok o.mode ∧ o.bits &&& ~~~modeMask = o.flags) ∧
      (∀ v m, ParseMode.tryFrom v = .ok m ↔ m.code = v) ∧
      (∀ v, (∃ m, ParseMode.tryFrom v = .ok m) ↔ 0 ≤ v.toInt ∧ v.toInt ≤ 5) ∧
      (∀ v e, ParseMode.tryFrom v = .error e ↔
        (v.toInt < 0 ∨ 5 < v.toInt) ∧ e = .invalidParseMode v) ∧
      (∀ (sql : String) (bytes : Bytes) (limit : Int32),
        (Operation.parse sql o).argument = (Buffer.ofText sql).map (·.content, o.bits) ∧
        (Operation.parseBytes bytes o).argument = (Buffer.ofBytes bytes).map (·.content, o.bits) ∧
        (Operation.parseJson sql o).argument = (Buffer.ofText sql).map (·.content, o.bits) ∧
        (Operation.fingerprint sql o).argument = (Buffer.ofText sql).map (·.content, o.bits) ∧
        (Operation.fingerprintBytes bytes o).argument =
          (Buffer.ofBytes bytes).map (·.content, o.bits) ∧
        (Operation.summary sql o limit).argument =
          (Buffer.ofText sql).map (·.content, o.bits, limit)) ∧
      (∀ {σ : Type} (e : Engine σ) (s : σ) (sql : String) (bytes : Bytes) (limit : Int32)
        (o' : ParseOptions), o.bits = o'.bits →
        (Operation.parse sql o).exec e s = (Operation.parse sql o').exec e s ∧
        (Operation.parseBytes bytes o).exec e s = (Operation.parseBytes bytes o').exec e s ∧
        (Operation.parseJson sql o).exec e s = (Operation.parseJson sql o').exec e s ∧
        (Operation.fingerprint sql o).exec e s = (Operation.fingerprint sql o').exec e s ∧
        (Operation.fingerprintBytes bytes o).exec e s =
          (Operation.fingerprintBytes bytes o').exec e s ∧
        (Operation.summary sql o limit).exec e s = (Operation.summary sql o' limit).exec e s) ∧
      (∀ c : Cli.Config, c.parseOptions.flags = ParserFlag.word (· ∈ c.parse.flags) ∧
        c.parseOptions.flags &&& modeMask = 0) := by
  refine ⟨o.bits_and_modeMask, o.bits_and_not_modeMask, o.bits_eq_bits_iff, o.bits_read_back,
    ParseMode.tryFrom_eq_ok_iff, fun v => ?_, ParseMode.tryFrom_eq_error_iff,
    fun _ _ _ => ⟨rfl, rfl, rfl, rfl, rfl, rfl⟩,
    fun e s sql bytes limit _ h => Operation.exec_eq_of_bits_eq e s sql bytes limit h,
    fun c => ?_⟩
  · simp only [ParseMode.tryFrom_eq_ok_iff]
    exact ParseMode.exists_code_eq_iff v
  · have hword : c.parseOptions.flags = ParserFlag.word (· ∈ c.parse.flags) :=
      ParserFlag.foldl_or_bit_eq_word c.parse.flags
    refine ⟨hword, ?_⟩
    rw [hword]
    exact ParserFlag.word_and_modeMask _

/-- The flag value 1 with the default entry point gives the word 1, the word of `type_name` with
the same flags: the engine parses both as type names. -/
theorem low_flag_bit_aliases_mode :
    ({ mode := .default, flags := 1 } : ParseOptions).bits =
        ({ mode := .typeName, flags := 1 } : ParseOptions).bits ∧
      ParseMode.tryFrom (({ mode := .default, flags := 1 } : ParseOptions).bits &&& modeMask) =
        .ok .typeName :=
  ⟨rfl, rfl⟩

end PgBinding
