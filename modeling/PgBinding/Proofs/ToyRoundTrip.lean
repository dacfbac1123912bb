import Mathlib
import PgBinding.Proofs.ToyNormalizing
import PgBinding.Proofs.PayloadCodec
/-!
# Parsing what deparsing answers

The toy engine parses each statement into a `String` node holding the statement without the blanks
around it, and deparses a tree of such nodes by joining their texts with `; `. Parsing a text
through the default engine and deparsing the tree answers the trimmed statements joined by `; `;
parsing that gives the same nodes again, unless one of the trimmed statements ends in a dangling
`from` (`deparsed_statements_parse_back`).

The engine looks for a dangling `from` in a statement without its trailing blanks, and only after
a plain space, while the node holds the statement without its leading blanks too. So blanks other
than a space followed by `from`, such as a tab and `from`, parse, and deparse to `from`, which does
not parse (`tab_from_parses_once`).
-/

namespace PgBinding

/-! ## Trimmed texts -/

namespace Text

theorem dropBlanks_of_head {cs : List Char} (h : ∀ c ∈ cs.head?, isBlank c = false) :
    dropBlanks cs = cs := by
  cases cs with
  | nil => rfl
  | cons c cs => simp [dropBlanks, h c rfl]

theorem head_dropBlanks (cs : List Char) : ∀ c ∈ (dropBlanks cs).head?, isBlank c = false := by
  induction cs with
  | nil => simp [dropBlanks]
  | cons c cs ih =>
    cases hc : isBlank c
    · simp [dropBlanks, hc]
    · simpa [dropBlanks, List.dropWhile_cons, hc] using ih

theorem toList_trim (s : String) :
    (trim s).toList = (dropBlanks (dropBlanks s.toList).reverse).reverse := by
  simp [trim, trimEnd]

/-- A trimmed text begins and ends with a character that is not blank. -/
theorem trim_ends (s : String) :
    (∀ c ∈ (trim s).toList.head?, isBlank c = false) ∧
      ∀ c ∈ (trim s).toList.getLast?, isBlank c = false := by
  rw [toList_trim, List.head?_reverse, List.getLast?_reverse]
  refine ⟨fun c hc => ?_, head_dropBlanks _⟩
  -- what trimming the end leaves ends where the text without its leading blanks ends
  obtain ⟨pre, hpre⟩ := (List.dropWhile_suffix isBlank :
    dropBlanks (dropBlanks s.toList).reverse <:+ (dropBlanks s.toList).reverse)
  have hc' : (List.dropWhile isBlank (dropBlanks s.toList).reverse).getLast? = some c := hc
  have hlast : c ∈ (dropBlanks s.toList).reverse.getLast? := by
    rw [← hpre, List.getLast?_append, hc']
    rfl
  rw [List.getLast?_reverse] at hlast
  exact head_dropBlanks _ c hlast

/-- A text that begins and ends with a character that is not blank is trimmed. -/
theorem trim_eq_self {s : String} (hhead : ∀ c ∈ s.toList.head?, isBlank c = false)
    (hlast : ∀ c ∈ s.toList.getLast?, isBlank c = false) : trim s = s := by
  rw [← String.toList_inj, toList_trim, dropBlanks_of_head hhead,
    dropBlanks_of_head (by simpa [List.head?_reverse] using hlast), List.reverse_reverse]

theorem trim_trim (s : String) : trim (trim s) = trim s :=
  trim_eq_self (trim_ends s).1 (trim_ends s).2

/-- A space before a trimmed text is trimmed away. -/
theorem trim_space_append (s : String) : trim (" " ++ trim s) = trim s := by
  have hdrop : dropBlanks (" " ++ trim s).toList = dropBlanks (trim s).toList := by
    rw [String.toList_append]
    exact List.dropWhile_cons_of_pos (by decide)
  rw [← String.toList_inj, toList_trim, hdrop, ← toList_trim, trim_trim]

theorem sublist_trim (s : String) : List.Sublist (trim s).toList s.toList := by
  rw [toList_trim]
  have h := (List.dropWhile_sublist isBlank (l := (dropBlanks s.toList).reverse)).reverse
  rw [List.reverse_reverse] at h
  exact h.trans (List.dropWhile_sublist isBlank)

end Text

namespace Toy

open Text

theorem byteLength_le_of_sublist {a b : List Char} (h : List.Sublist a b) :
    byteLength a ≤ byteLength b :=
  (h.map Char.utf8Size).sum_le_sum fun _ _ => Nat.zero_le _

/-! ## Statements -/

/-- No piece of a split holds the separator. -/
theorem not_mem_of_mem_splitOn {sep : Char} {cs part : List Char} (h : part ∈ cs.splitOn sep) :
    sep ∉ part := by
  induction cs generalizing part with
  | nil =>
    rw [List.splitOn_nil, List.mem_singleton] at h
    subst h
    exact List.not_mem_nil
  | cons x xs ih =>
    rw [List.splitOn_cons_eq_if_modifyHead] at h
    split_ifs at h with hx
    · rcases List.mem_cons.1 h with rfl | h
      · exact List.not_mem_nil
      · exact ih h
    · -- the first piece of the rest gets the character in front of it
      obtain ⟨p, ps, hps⟩ := List.exists_cons_of_ne_nil (List.splitOn_ne_nil sep xs)
      rw [hps, List.modifyHead_cons] at h
      rcases List.mem_cons.1 h with rfl | h
      · rintro (_ | ⟨_, hp⟩)
        · exact hx (by simp)
        · exact ih (hps ▸ List.mem_cons_self) hp
      · exact ih (hps ▸ List.mem_cons_of_mem p h)

/-- A statement is a piece of the input between separators, not all blank. -/
theorem mem_statements {sql : String} {x : Nat × List Char} (hx : x ∈ statements sql) :
    x.2 ∈ sql.toList.splitOn ';' ∧ x.2.all isBlank = false := by
  have h := List.mem_map_of_mem (f := Prod.snd) hx
  rw [statements, texts_segmentsFrom] at h
  simpa using List.mem_filter.1 h

/-- The statements of an input without the blanks around them: what the toy engine's parse tree
holds. -/
def trimmedStatements (sql : String) : List String :=
  (statements sql).map fun x => trim (String.ofList x.2)

/-- A trimmed statement is trimmed, not empty, and made of characters of the input other than the
separator. -/
theorem mem_trimmedStatements {sql v : String} (hv : v ∈ trimmedStatements sql) :
    trim v = v ∧ v ≠ "" ∧ ∀ c ∈ v.toList, c ≠ ';' ∧ c ∈ sql.toList := by
  obtain ⟨x, hx, rfl⟩ := List.mem_map.1 hv
  obtain ⟨hpiece, hblank⟩ := mem_statements hx
  refine ⟨trim_trim _, fun hempty => ?_, fun c hc => ?_⟩
  · obtain ⟨c, hc, hnb⟩ := List.all_eq_false.1 hblank
    exact hnb ((trim_eq_empty_iff _).1 hempty c (by simpa using hc))
  · have hc' : c ∈ x.2 := by simpa using (sublist_trim _).subset hc
    have hsql : sql.toList = [] ++ [';'].intercalate (sql.toList.splitOn ';') := by
      rw [List.nil_append, List.intercalate_splitOn]
    obtain ⟨a, b, hab, -⟩ := segmentsFrom_located hsql rfl x hx
    refine ⟨fun h => not_mem_of_mem_splitOn hpiece (h ▸ hc'), ?_⟩
    rw [hab]
    simp [hc']

theorem syntaxErrorCursor_eq_none_iff (sql : String) :
    syntaxErrorCursor sql = none ↔ ∀ x ∈ statements sql, danglingFrom x.2 = false := by
  simp [syntaxErrorCursor, List.find?_eq_none]

/-! ## Texts joined by `; ` -/

/-- The pieces between the separators of texts joined by `; `: the texts, each but the first after
a space. -/
def joinPieces : List String → List String
  | [] => []
  | v :: vs => v :: vs.map (" " ++ ·)

theorem intercalate_joinPieces_aux (p v : String) (vs : List String) :
    ";".intercalate ((p ++ v) :: vs.map (" " ++ ·)) = p ++ "; ".intercalate (v :: vs) := by
  induction vs generalizing p v with
  | nil => simp
  | cons w ws ih =>
    rw [List.map_cons, String.intercalate_cons_cons, ih, String.intercalate_cons_cons]
    simp only [String.append_assoc]
    rfl

theorem intercalate_joinPieces (texts : List String) :
    ";".intercalate (joinPieces texts) = "; ".intercalate texts := by
  cases texts with
  | nil => rfl
  | cons v vs =>
    rw [joinPieces]
    simpa using intercalate_joinPieces_aux "" v vs

/-- A statement preceded by a space ends in a dangling `from` exactly when the statement does,
when its last character is not blank. -/
theorem danglingFrom_space_cons {u : List Char} (hlast : ∀ c ∈ u.getLast?, isBlank c = false) :
    danglingFrom (' ' :: u) = danglingFrom u := by
  rcases u.eq_nil_or_concat' with rfl | ⟨v, c, rfl⟩
  · decide
  · have hc : isBlank c = false := hlast c (by simp)
    have h₁ : (dropBlanks (' ' :: (v ++ [c])).reverse).reverse = ' ' :: (v ++ [c]) := by
      rw [dropBlanks_of_head (by simpa using hc), List.reverse_reverse]
    have h₂ : (dropBlanks (v ++ [c]).reverse).reverse = v ++ [c] := by
      rw [dropBlanks_of_head (by simpa using hc), List.reverse_reverse]
    unfold danglingFrom
    rw [h₁, h₂, List.map_cons, show Char.toLower ' ' = ' ' from rfl]
    generalize (v ++ [c]).map Char.toLower = w
    -- the space makes the text no `from`, and ends it in ` from` when it was `from`
    rw [Bool.eq_iff_iff]
    simp only [Bool.or_eq_true, beq_iff_eq, List.isSuffixOf_iff_suffix]
    rw [List.suffix_cons_iff]
    simp [eq_comm]

theorem mem_joinPieces {texts : List String} {p : String} (hp : p ∈ joinPieces texts) :
    ∃ v ∈ texts, p = v ∨ p = " " ++ v := by
  cases texts with
  | nil => exact absurd hp List.not_mem_nil
  | cons v vs =>
    rcases List.mem_cons.1 hp with rfl | hp
    · exact ⟨p, List.mem_cons_self, .inl rfl⟩
    · obtain ⟨w, hw, rfl⟩ := List.mem_map.1 hp
      exact ⟨w, List.mem_cons_of_mem v hw, .inr rfl⟩

theorem trim_space_append_of_trim {w : String} (h : trim w = w) : trim (" " ++ w) = w :=
  calc trim (" " ++ w) = trim (" " ++ trim w) := by rw [h]
    _ = w := by rw [trim_space_append, h]

/-- Trimming the pieces of trimmed texts gives the texts back. -/
theorem map_trim_joinPieces {texts : List String} (h : ∀ v ∈ texts, trim v = v) :
    (joinPieces texts).map trim = texts := by
  cases texts with
  | nil => rfl
  | cons v vs =>
    rw [joinPieces, List.map_cons, List.map_map, h v List.mem_cons_self]
    refine congrArg (v :: ·) ((List.map_congr_left fun w hw => ?_).trans (List.map_id vs))
    exact trim_space_append_of_trim (h w (List.mem_cons_of_mem v hw))

/-- A piece of trimmed texts ends in a dangling `from` exactly when its text does. -/
theorem danglingFrom_joinPieces {texts : List String} (h : ∀ v ∈ texts, trim v = v) :
    (joinPieces texts).map (fun p => danglingFrom p.toList) =
      texts.map fun v => danglingFrom v.toList := by
  cases texts with
  | nil => rfl
  | cons v vs =>
    rw [joinPieces, List.map_cons, List.map_cons, List.map_map]
    refine congrArg _ (List.map_congr_left fun w hw => ?_)
    have hlast := (trim_ends w).2
    rw [h w (List.mem_cons_of_mem v hw)] at hlast
    simpa [String.toList_append] using danglingFrom_space_cons hlast

/-- Trimmed texts without `;` joined by `; ` are read back as statements that trim to those texts,
each ending in a dangling `from` exactly when its text does. -/
theorem statements_intercalate {texts : List String}
    (h : ∀ v ∈ texts, trim v = v ∧ v ≠ "" ∧ ';' ∉ v.toList) :
    trimmedStatements ("; ".intercalate texts) = texts ∧
      (syntaxErrorCursor ("; ".intercalate texts) = none ↔
        ∀ v ∈ texts, danglingFrom v.toList = false) := by
  have htrim : ∀ v ∈ texts, trim v = v := fun v hv => (h v hv).1
  -- every piece holds no separator and is not blank, so each is a statement
  have hpieces : ∀ p ∈ joinPieces texts, ';' ∉ p.toList ∧ trim p ≠ "" := by
    intro p hp
    obtain ⟨v, hv, hpv | hpv⟩ := mem_joinPieces hp <;> rw [hpv]
    · exact ⟨(h v hv).2.2, by rw [(h v hv).1]; exact (h v hv).2.1⟩
    · refine ⟨by simpa [String.toList_append] using (h v hv).2.2, ?_⟩
      rw [trim_space_append_of_trim (h v hv).1]
      exact (h v hv).2.1
  have hsplit := statement_texts (intercalate_joinPieces texts) fun p hp => (hpieces p hp).1
  rw [List.filter_eq_self.2 fun p hp => by simpa using (hpieces p hp).2] at hsplit
  refine ⟨?_, ?_⟩
  · calc trimmedStatements ("; ".intercalate texts)
        = ((statements ("; ".intercalate texts)).map fun x => String.ofList x.2).map trim := by
          rw [trimmedStatements, List.map_map]
          rfl
      _ = texts := by rw [hsplit, map_trim_joinPieces htrim]
  · -- the statements end in a dangling `from` as the texts do, one by one
    have hdangling := congrArg (List.map fun p : String => danglingFrom p.toList) hsplit
    rw [List.map_map, danglingFrom_joinPieces htrim] at hdangling
    have hall := congrArg (fun l : List Bool => ∀ b ∈ l, b = false) hdangling
    simp only [List.forall_mem_map, Function.comp_apply, String.toList_ofList] at hall
    rw [syntaxErrorCursor_eq_none_iff, hall]

/-! ## Trees of text nodes -/

/-- A `String` node holding a text: what the toy engine parses a statement into. -/
def textNode (v : String) : Tree.Node := .typed (.mk .string [.text v])

/-- The nodes of the toy engine's tree are the trimmed statements. -/
theorem parseTree_nodes (sql : String) :
    (parseTree sql).stmts.map (·.stmt) = (trimmedStatements sql).map (some ∘ textNode) := by
  simp [parseTree, trimmedStatements, textNode]

theorem exists_textNode_of_mem {stmts : List Tree.Statement} {texts : List String}
    (hnodes : stmts.map (·.stmt) = texts.map (some ∘ textNode)) {s : Tree.Statement}
    (hs : s ∈ stmts) : ∃ v ∈ texts, s.stmt = some (textNode v) := by
  have hmem := List.mem_map_of_mem (f := (·.stmt)) hs
  rw [hnodes] at hmem
  obtain ⟨v, hv, hsv⟩ := List.mem_map.1 hmem
  exact ⟨v, hv, hsv.symm⟩

theorem wellFormed_of_textNode {s : Tree.Statement} {v : String}
    (hs : s.stmt = some (textNode v)) : s.wellFormed = true := by
  simp [Tree.Statement.wellFormed, hs, textNode, Tree.Node.wellFormed, Tree.Kind.fields,
    Tree.fieldsWellFormed, Tree.Field.fits]

theorem nesting_of_textNode {s : Tree.Statement} {v : String}
    (hs : s.stmt = some (textNode v)) : s.nesting = 3 := by
  simp [Tree.Statement.nesting, hs, textNode, Tree.Node.nesting, Tree.fieldsNesting,
    Tree.Field.nesting]

open Wire in
theorem length_writeFramed_le (n len : Nat) (payload : Bytes) :
    (writeFramed n len payload).length ≤ 20 + payload.length := by
  rw [length_writeFramed]
  have := varintLen_le (n * 8 + WireType.lengthDelimited.code)
  have := varintLen_le len
  omega

theorem length_encode_textNode (v : String) :
    (textNode v).encode.length ≤ 40 + (Utf8.encode v).length := by
  have hfield : (Tree.Field.encode 1 (.text v)).length ≤ 20 + (Utf8.encode v).length := by
    rw [Tree.Field.encode]
    split
    · simp
    · exact length_writeFramed_le _ _ _
  rw [textNode, Tree.Node.encode]
  refine (length_writeFramed_le _ _ _).trans ?_
  simp only [Tree.Kind.fields, Tree.encodeFields, List.append_nil]
  omega

/-- A statement holding a text node is framed in at most 120 bytes more than its text. -/
theorem length_frame_textNode {s : Tree.Statement} {v : String}
    (hs : s.stmt = some (textNode v)) :
    (Wire.writeFramed 2 s.encodedLen s.encode).length ≤ 120 + (Utf8.encode v).length := by
  refine (length_writeFramed_le _ _ _).trans ?_
  have hnode := length_encode_textNode v
  have hframe := length_writeFramed_le 1 (textNode v).encodedLen (textNode v).encode
  have hloc := Scan.length_writeInt32_le 2 s.location
  have hlen := Scan.length_writeInt32_le 3 s.length
  simp only [Tree.Statement.encode, hs, List.length_append]
  omega

theorem length_frames_le {stmts : List Tree.Statement} {texts : List String}
    (hnodes : stmts.map (·.stmt) = texts.map (some ∘ textNode)) :
    ((stmts.map fun s => Wire.writeFramed 2 s.encodedLen s.encode).flatten).length ≤
      (texts.map fun v => 120 + (Utf8.encode v).length).sum := by
  induction stmts generalizing texts with
  | nil => exact Nat.zero_le _
  | cons s ss ih =>
    cases texts with
    | nil => exact absurd hnodes (by simp)
    | cons v vs =>
      simp only [List.map_cons, List.cons.injEq, Function.comp_apply] at hnodes
      rw [List.map_cons, List.flatten_cons, List.length_append, List.map_cons, List.sum_cons]
      have := length_frame_textNode hnodes.1
      have := ih hnodes.2
      omega

section TextTree

variable {t : Tree.ParseTree} {texts : List String}

theorem wellFormed_of_texts (hnodes : t.stmts.map (·.stmt) = texts.map (some ∘ textNode)) :
    t.wellFormed = true :=
  List.all_eq_true.2 fun s hs => by
    obtain ⟨v, -, hsv⟩ := exists_textNode_of_mem hnodes hs
    exact wellFormed_of_textNode hsv

theorem nesting_of_texts (hnodes : t.stmts.map (·.stmt) = texts.map (some ∘ textNode)) :
    t.nesting ≤ Wire.nestingLimit :=
  List.max_le_of_forall_le _ _ fun n hn => by
    obtain ⟨s, hs, rfl⟩ := List.mem_map.1 hn
    obtain ⟨v, -, hsv⟩ := exists_textNode_of_mem hnodes hs
    rw [nesting_of_textNode hsv]
    decide

/-- A tree of text nodes is encoded in at most 120 bytes a statement more than its texts. -/
theorem length_encode_of_texts (hnodes : t.stmts.map (·.stmt) = texts.map (some ∘ textNode)) :
    t.encode.length ≤ 20 + (texts.map fun v => 120 + (Utf8.encode v).length).sum := by
  rw [Tree.ParseTree.encode, List.length_append]
  have := Scan.length_writeInt32_le 1 t.version
  have := length_frames_le hnodes
  omega

end TextTree

/-! ## Sizes of statements -/

theorem sum_byteLength_le_intercalate (sep : List Char) :
    ∀ parts : List (List Char), (parts.map byteLength).sum ≤ byteLength (sep.intercalate parts)
  | [] => Nat.zero_le _
  | [p] => by simp
  | p :: q :: qs => by
    rw [List.intercalate_cons_cons, byteLength_append, byteLength_append, List.map_cons,
      List.sum_cons]
    have := sum_byteLength_le_intercalate sep (q :: qs)
    omega

/-- The statements of an input, apart from one another, take no more bytes than the input. -/
theorem sum_byteLength_statements_le (sql : String) :
    ((statements sql).map fun x => byteLength x.2).sum ≤ sql.utf8ByteSize := by
  have hmap : (statements sql).map (fun x => byteLength x.2) =
      ((sql.toList.splitOn ';').filter fun part => !part.all isBlank).map byteLength := by
    rw [← texts_segmentsFrom 0, List.map_map]
    rfl
  calc ((statements sql).map fun x => byteLength x.2).sum
      = (((sql.toList.splitOn ';').filter fun part => !part.all isBlank).map byteLength).sum := by
        rw [hmap]
    _ ≤ ((sql.toList.splitOn ';').map byteLength).sum :=
        (List.filter_sublist.map _).sum_le_sum fun _ _ => Nat.zero_le _
    _ ≤ byteLength ([';'].intercalate (sql.toList.splitOn ';')) :=
        sum_byteLength_le_intercalate _ _
    _ = sql.utf8ByteSize := by rw [List.intercalate_splitOn, byteLength_toList]

/-- The trimmed statements of an input, each with 120 bytes more, take at most 121 bytes a byte
of the input: every statement holds a character. -/
theorem sum_trimmedStatements_le (sql : String) :
    ((trimmedStatements sql).map fun v => 120 + (Utf8.encode v).length).sum ≤
      121 * sql.utf8ByteSize := by
  have hpoint : ∀ x ∈ statements sql,
      120 + (Utf8.encode (trim (String.ofList x.2))).length ≤ 121 * byteLength x.2 := by
    intro x hx
    have htrim := byteLength_le_of_sublist (sublist_trim (String.ofList x.2))
    rw [byteLength_toList, String.toList_ofList] at htrim
    have hpos : 1 ≤ byteLength x.2 := by
      obtain ⟨c, hc, -⟩ := List.all_eq_false.1 (mem_statements hx).2
      obtain ⟨pre, post, hsplit⟩ := List.append_of_mem hc
      rw [hsplit, byteLength_append, byteLength_cons]
      have := Char.utf8Size_pos c
      omega
    rw [Utf8.length_encode]
    omega
  calc ((trimmedStatements sql).map fun v => 120 + (Utf8.encode v).length).sum
      = ((statements sql).map fun x =>
          120 + (Utf8.encode (trim (String.ofList x.2))).length).sum := by
        rw [trimmedStatements, List.map_map]
        rfl
    _ ≤ ((statements sql).map fun x => 121 * byteLength x.2).sum := List.sum_le_sum hpoint
    _ = 121 * ((statements sql).map fun x => byteLength x.2).sum := List.sum_map_mul_left _ _ _
    _ ≤ 121 * sql.utf8ByteSize := Nat.mul_le_mul_left _ (sum_byteLength_statements_le sql)


/-! ## Parsing and deparsing through the default engine -/

/-- A payload of bytes is read back whole when its length is a signed 64-bit length. -/
theorem payloadBytes_ofBytes (what : String) {bs : Bytes} (h : bs.length ≤ Error.int64Max) :
    Materialize.payloadBytes what (Payload.ofBytes bs) = .ok bs := by
  rw [Materialize.payloadBytes_eq_ok_iff]
  cases bs with
  | nil => exact .inl ⟨.inl rfl, rfl⟩
  | cons b bs => exact .inr ⟨b :: bs, rfl, Nat.succ_pos _, h, List.take_length.symm⟩

/-- A text without NUL whose statements end in no dangling `from` parses, through the default
engine, into a tree with the toy engine's statements, when their encoding has a signed 64-bit
length. -/
theorem parse_default {sql : String} (hnul : '\x00' ∉ sql.toList)
    (hfit : (parseTree sql).encode.length ≤ Error.int64Max) (hc : syntaxErrorCursor sql = none)
    (o : ParseOptions) (s : State) :
    ∃ tree t, Parser.parse (engine {}) sql o s = .ok (.ok tree) t ∧
      tree.stmts = (parseTree sql).stmts := by
  have hnodes := parseTree_nodes sql
  -- the engine answers the tree's encoding, or nothing when there is no statement
  obtain ⟨bs, hbs, hlen, tree, hdecode, hstmts⟩ : ∃ bs : Bytes,
      bs = (if (parseTree sql).stmts.isEmpty then [] else (parseTree sql).encode) ∧
      bs.length ≤ Error.int64Max ∧ ∃ tree, Tree.ParseTree.decode bs = .ok tree ∧
        tree.stmts = (parseTree sql).stmts := by
    by_cases hempty : (parseTree sql).stmts.isEmpty
    · exact ⟨[], by rw [if_pos hempty], Nat.zero_le _, {}, rfl, (List.isEmpty_iff.1 hempty).symm⟩
    · refine ⟨(parseTree sql).encode, (if_neg hempty).symm, hfit, parseTree sql, ?_, rfl⟩
      exact Tree.ParseTree.decode_encode _ (wellFormed_of_texts hnodes) (nesting_of_texts hnodes)
        (by unfold Error.int64Max at hfit; omega)
  obtain ⟨t, hcall⟩ : ∃ t, (engine {}).parseProtobuf (Utf8.encode sql) o.bits
      ((engine {}).note (Parser.dispatchRecord .parseProtobuf) s) =
      .ok { payload := Payload.ofBytes bs } t := by
    simp only [engine, bind, EStateM.bind, dispatch_run, input_run (Utf8.decode_encode sql),
      syntaxError_of_none hc, allocPayload_run, Bool.false_eq_true, if_false, hbs]
    exact ⟨_, rfl⟩
  have herr : (fun r : PayloadReply => r.error) { payload := Payload.ofBytes bs } = none := rfl
  obtain ⟨t', ht'⟩ := Parser.run_of_answer (engine {}) .parseProtobuf
    (fun r : PayloadReply => (do
      let bs ← Materialize.payloadBytes "parse tree" r.payload
      (Tree.ParseTree.decode bs).mapError (Error.decode "parse tree") : Except Error Tree.ParseTree))
    hcall herr
  have hread : (do
      let bs ← Materialize.payloadBytes "parse tree" (Payload.ofBytes bs)
      (Tree.ParseTree.decode bs).mapError (Error.decode "parse tree") : Except Error Tree.ParseTree) =
      .ok tree := by
    rw [payloadBytes_ofBytes _ hlen]
    show (Tree.ParseTree.decode bs).mapError (Error.decode "parse tree") = .ok tree
    rw [hdecode]
    rfl
  exact ⟨tree, t', by rw [Parser.parse, ofText_of_no_nul hnul, ← hread]; exact ht', hstmts⟩

/-- A dangling `from` is answered with the syntax error just past its statement. -/
theorem parse_default_of_syntaxError {sql : String} (hnul : '\x00' ∉ sql.toList) {cursor : Nat}
    (hc : syntaxErrorCursor sql = some cursor) (o : ParseOptions) (s : State) :
    ∃ t, Parser.parse (engine {}) sql o s = .ok (.error (danglingFromError cursor)) t := by
  obtain ⟨t, hcall⟩ : ∃ t, (engine {}).parseProtobuf (Utf8.encode sql) o.bits
      ((engine {}).note (Parser.dispatchRecord .parseProtobuf) s) =
      .ok { error := some (scannerError "syntax error at end of input" (Int32.ofNat cursor)) } t := by
    simp only [engine, bind, EStateM.bind, dispatch_run, input_run (Utf8.decode_encode sql),
      syntaxError_of_some hc]
    exact ⟨_, rfl⟩
  have herr : (fun r : PayloadReply => r.error)
      { error := some (scannerError "syntax error at end of input" (Int32.ofNat cursor)) } =
      some (scannerError "syntax error at end of input" (Int32.ofNat cursor)) := rfl
  obtain ⟨t', ht'⟩ := Parser.run_of_error (engine {}) .parseProtobuf
    (fun r : PayloadReply => (do
      let bs ← Materialize.payloadBytes "parse tree" r.payload
      (Tree.ParseTree.decode bs).mapError (Error.decode "parse tree") : Except Error Tree.ParseTree))
    hcall herr
  exact ⟨t', by rw [Parser.parse, ofText_of_no_nul hnul]; exact ht'⟩

/-- Each statement's text node is read as its text, in order. -/
theorem mapM_textNodes {stmts : List Tree.Statement} {texts : List String}
    (hnodes : stmts.map (·.stmt) = texts.map (some ∘ textNode)) :
    stmts.mapM (fun s => match s.stmt with
      | some (.typed (.mk .string [.text v])) => some v
      | _ => none) = some texts := by
  induction stmts generalizing texts with
  | nil =>
    cases texts with
    | nil => rfl
    | cons v vs => exact absurd hnodes (by simp)
  | cons st sts ih =>
    cases texts with
    | nil => exact absurd hnodes (by simp)
    | cons v vs =>
      simp only [List.map_cons, List.cons.injEq, Function.comp_apply] at hnodes
      simp [hnodes.1, textNode, ih hnodes.2]

/-- The encoding of a tree of text nodes is read back as its texts. -/
theorem statementTexts_of_texts {t : Tree.ParseTree} {texts : List String}
    (hnodes : t.stmts.map (·.stmt) = texts.map (some ∘ textNode))
    (hlen : t.encode.length ≤ Error.int64Max) :
    statementTexts (Payload.ofBytes t.encode) = some texts := by
  have hdecode := Tree.ParseTree.decode_encode t (wellFormed_of_texts hnodes)
    (nesting_of_texts hnodes) (by unfold Error.int64Max at hlen; omega)
  -- the payload's bytes are the encoding, also when it is empty
  by_cases hempty : t.encode = []
  · rw [hempty] at hdecode
    simp only [statementTexts, Payload.ofBytes, hempty, List.isEmpty_nil, if_true, hdecode]
    exact mapM_textNodes hnodes
  · have hne : t.encode.isEmpty = false := List.isEmpty_eq_false_iff.2 hempty
    have hlen0 : t.encode.length ≠ 0 := mt List.length_eq_zero_iff.1 hempty
    simp only [statementTexts, Payload.ofBytes, hne, hlen0, Bool.false_eq_true, if_false,
      List.take_length, hdecode]
    exact mapM_textNodes hnodes

/-- Deparsing a tree of text nodes without NUL through the default engine answers the texts joined
by `; `. -/
theorem deparse_default {t : Tree.ParseTree} {texts : List String}
    (hnodes : t.stmts.map (·.stmt) = texts.map (some ∘ textNode))
    (hlen : t.encode.length ≤ Error.int64Max) (hnul : ∀ v ∈ texts, '\x00' ∉ v.toList)
    (s : State) :
    ∃ s', Parser.deparse (engine {}) t s = .ok (.ok ("; ".intercalate texts)) s' := by
  obtain ⟨t₁, hcall⟩ : ∃ t₁, (engine {}).deparse (Payload.ofBytes t.encode)
      ((engine {}).note (Parser.dispatchRecord .deparse) s) =
      .ok { text := some (Utf8.encode ("; ".intercalate texts)) } t₁ := by
    have h := deparseTree_of_texts {} (statementTexts_of_texts hnodes hlen) hnul
      ((engine {}).note (Parser.dispatchRecord .deparse) s)
    simp only [Bool.false_eq_true, if_false, List.append_nil] at h
    exact ⟨_, h⟩
  have herr : (fun r : TextReply => r.error)
      { text := some (Utf8.encode ("; ".intercalate texts)) } = none := rfl
  obtain ⟨s', hs'⟩ := Parser.run_of_answer (engine {}) .deparse
    (fun r => Materialize.utf8String "deparsed query" r.text) hcall herr
  have hread : Materialize.utf8String "deparsed query" (some (Utf8.encode ("; ".intercalate texts))) =
      .ok ("; ".intercalate texts) := (Materialize.utf8String_eq_ok_iff _ _ _).2 rfl
  exact ⟨s', by rw [Parser.deparse, Parser.deparseBytes, ← hread]; exact hs'⟩

/-- A tree of the trimmed statements of a text shorter than `2 ^ 31` bytes, such as the toy
engine's own tree of it, has an encoding of a signed 64-bit length: at most 121 bytes a byte of
the text and 20 more. -/
theorem length_encode_le_int64Max {t : Tree.ParseTree} {sql : String}
    (hnodes : t.stmts.map (·.stmt) = (trimmedStatements sql).map (some ∘ textNode))
    (hlen : sql.utf8ByteSize < 2 ^ 31) : t.encode.length ≤ Error.int64Max := by
  have hencode := length_encode_of_texts hnodes
  have hsum := sum_trimmedStatements_le sql
  unfold Error.int64Max
  omega

/-- A text that parses has no statement ending in a dangling `from`. -/
theorem syntaxErrorCursor_of_parse {sql : String} (hnul : '\x00' ∉ sql.toList) {o : ParseOptions}
    {s t : State} {tree : Tree.ParseTree}
    (h : Parser.parse (engine {}) sql o s = .ok (.ok tree) t) : syntaxErrorCursor sql = none := by
  cases hc : syntaxErrorCursor sql with
  | none => rfl
  | some cursor =>
    obtain ⟨t', ht'⟩ := parse_default_of_syntaxError hnul hc o s
    rw [ht'] at h
    exact nomatch (EStateM.Result.ok.inj h).1

/-- The statements of a tree a text parses into hold the text's trimmed statements. -/
theorem nodes_of_parse {sql : String} (hnul : '\x00' ∉ sql.toList)
    (hfit : (parseTree sql).encode.length ≤ Error.int64Max) {o : ParseOptions} {s t : State}
    {tree : Tree.ParseTree} (h : Parser.parse (engine {}) sql o s = .ok (.ok tree) t) :
    tree.stmts.map (·.stmt) = (trimmedStatements sql).map (some ∘ textNode) := by
  obtain ⟨tree', t', h', hstmts⟩ := parse_default hnul hfit (syntaxErrorCursor_of_parse hnul h) o s
  rw [h'] at h
  have htree : tree' = tree := Except.ok.inj (EStateM.Result.ok.inj h).1
  rw [← htree, hstmts, parseTree_nodes]

/-- Parsing a text without NUL through the default engine, deparsing the tree, and parsing the
answer again. The tree holds the trimmed statements of the text, and deparsing answers them joined
by `; `. That answer parses into a tree with the same statement nodes exactly when none of the
trimmed statements ends in a dangling `from`; otherwise it is a syntax error. The engine checks
the statement without its trailing blanks only, so a trimmed statement can end in a dangling
`from` that the text did not have. -/
theorem deparsed_statements_parse_back (sql : String) (hnul : '\x00' ∉ sql.toList)
    (hlen : sql.utf8ByteSize < 2 ^ 31) (o : ParseOptions) (s : State) {t : Tree.ParseTree}
    {s₁ : State} (hparse : Parser.parse (engine {}) sql o s = .ok (.ok t) s₁) (s₂ s₃ : State) :
    t.stmts.map (·.stmt) = (trimmedStatements sql).map (some ∘ textNode) ∧
      (∃ s', Parser.deparse (engine {}) t s₂ =
        .ok (.ok ("; ".intercalate (trimmedStatements sql))) s') ∧
      ((∀ v ∈ trimmedStatements sql, danglingFrom v.toList = false) ↔
        ∃ t₂ s', Parser.parse (engine {}) ("; ".intercalate (trimmedStatements sql)) o s₃ =
          .ok (.ok t₂) s' ∧ t₂.stmts.map (·.stmt) = t.stmts.map (·.stmt)) ∧
      ((∃ v ∈ trimmedStatements sql, danglingFrom v.toList = true) →
        ∃ cursor s', Parser.parse (engine {}) ("; ".intercalate (trimmedStatements sql)) o s₃ =
          .ok (.error (danglingFromError cursor)) s') := by
  have hnodes := nodes_of_parse hnul (length_encode_le_int64Max (parseTree_nodes sql) hlen) hparse
  -- the trimmed statements are trimmed, not empty, and hold neither `;` nor NUL
  have htexts : ∀ v ∈ trimmedStatements sql, trim v = v ∧ v ≠ "" ∧ ';' ∉ v.toList := by
    intro v hv
    obtain ⟨htrim, hne, hchars⟩ := mem_trimmedStatements hv
    exact ⟨htrim, hne, fun hc => (hchars ';' hc).1 rfl⟩
  have hnul' : ∀ v ∈ trimmedStatements sql, '\x00' ∉ v.toList :=
    fun v hv hc => hnul ((mem_trimmedStatements hv).2.2 '\x00' hc).2
  have hlenT := length_encode_le_int64Max hnodes hlen
  -- the answer's statements trim to the same texts, so its tree is as small
  obtain ⟨hback, hcursor⟩ := statements_intercalate htexts
  have hnulD := nul_not_mem_join hnul'
  have hfitD : (parseTree ("; ".intercalate (trimmedStatements sql))).encode.length ≤
      Error.int64Max :=
    length_encode_le_int64Max (by rw [parseTree_nodes, hback]) hlen
  refine ⟨hnodes, deparse_default hnodes hlenT hnul' s₂, ⟨fun hclean => ?_, ?_⟩, fun hdangling => ?_⟩
  · obtain ⟨t₂, s', h₂, -⟩ := parse_default hnulD hfitD (hcursor.2 hclean) o s₃
    refine ⟨t₂, s', h₂, ?_⟩
    rw [nodes_of_parse hnulD hfitD h₂, hback, hnodes]
  · rintro ⟨t₂, s', h₂, -⟩
    exact hcursor.1 (syntaxErrorCursor_of_parse hnulD h₂)
  · obtain ⟨v, hv, hdv⟩ := hdangling
    cases hc : syntaxErrorCursor ("; ".intercalate (trimmedStatements sql)) with
    | none => exact absurd (hcursor.1 hc v hv) (by rw [hdv]; decide)
    | some cursor =>
      obtain ⟨s', h'⟩ := parse_default_of_syntaxError hnulD hc o s₃
      exact ⟨cursor, s', h'⟩

theorem select_statements_parse_back :
    ∃ t s₁ s₂, Parser.parse (engine {}) " select 1 ;select 2" {} {} = .ok (.ok t) s₁ ∧
      Parser.deparse (engine {}) t s₁ = .ok (.ok "select 1; select 2") s₂ ∧
      ∃ t₂ s₃, Parser.parse (engine {}) "select 1; select 2" {} s₂ = .ok (.ok t₂) s₃ ∧
        t₂.stmts.map (·.stmt) = t.stmts.map (·.stmt) := by
  have hnul : '\x00' ∉ " select 1 ;select 2".toList := by decide +kernel
  have hlen : " select 1 ;select 2".utf8ByteSize < 2 ^ 31 := by decide +kernel
  have htexts : trimmedStatements " select 1 ;select 2" = ["select 1", "select 2"] := by
    decide +kernel
  have hjoin : "; ".intercalate ["select 1", "select 2"] = "select 1; select 2" := by decide +kernel
  obtain ⟨t, s₁, h₁, -⟩ :=
    parse_default hnul (length_encode_le_int64Max (parseTree_nodes _) hlen) (by decide +kernel) {} {}
  obtain ⟨-, ⟨s₂, h₂⟩, -⟩ := deparsed_statements_parse_back _ hnul hlen {} {} h₁ s₁ s₁
  obtain ⟨-, -, hback, -⟩ := deparsed_statements_parse_back _ hnul hlen {} {} h₁ s₁ s₂
  rw [htexts, hjoin] at h₂ hback
  obtain ⟨t₂, s₃, h₃, hsame⟩ := hback.1 (by decide +kernel)
  exact ⟨t, s₁, s₂, h₁, h₂, t₂, s₃, h₃, hsame⟩

/-- A tab before `from` parses, and the tree deparses to `from`, which does not parse. -/
theorem tab_from_parses_once :
    ∃ t s₁ s₂ s₃, Parser.parse (engine {}) "\tfrom" {} {} = .ok (.ok t) s₁ ∧
      Parser.deparse (engine {}) t s₁ = .ok (.ok "from") s₂ ∧
      Parser.parse (engine {}) "from" {} s₂ = .ok (.error (danglingFromError 5)) s₃ := by
  have hnul : '\x00' ∉ "\tfrom".toList := by decide +kernel
  have hlen : "\tfrom".utf8ByteSize < 2 ^ 31 := by decide +kernel
  have hfit := length_encode_le_int64Max (parseTree_nodes "\tfrom") hlen
  obtain ⟨t, s₁, h₁, -⟩ := parse_default hnul hfit (by decide +kernel) {} {}
  have hnodes := nodes_of_parse hnul hfit h₁
  have hfitT := length_encode_le_int64Max hnodes hlen
  rw [show trimmedStatements "\tfrom" = ["from"] by decide +kernel] at hnodes
  obtain ⟨s₂, h₂⟩ := deparse_default hnodes hfitT (by decide +kernel) s₁
  obtain ⟨s₃, h₃⟩ := parse_default_of_syntaxError (by decide +kernel)
    (show syntaxErrorCursor "from" = some 5 by decide +kernel) {} s₂
  exact ⟨t, s₁, s₂, s₃, h₁, h₂, h₃⟩

end Toy
end PgBinding
