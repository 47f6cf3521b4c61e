import QueryFlow.Dot.Quote
import Mathlib.Data.List.TakeWhile

/-!
Reading values of the DOT language back. A value is a word, a numeral, or a text between double
quotes in which a backslash makes a quote a part of the text. Rules differ in what two backslashes
in front of a quote mean, so both are kept apart. The main statement says exactly which texts are
read back as they were written; markup is no text. What else stands in a document is not looked at.
-/

namespace QueryFlow.Dot

section Reader

/-- A character that begins a word; all beyond ASCII do. -/
def startsWord (c : Char) : Bool := isWordStart c || 128 ≤ c.toNat

def continuesWord (c : Char) : Bool := isWordChar c || 128 ≤ c.toNat

/-- A text with one more character in front, and what is behind it. -/
def push (c : Char) (x : List Char × List Char) : List Char × List Char := (c :: x.1, x.2)

/-- Read on between double quotes up to the one that closes. A backslash makes a quote behind it a
part of the text; `loose` tells that one stands just in front and is still to be read. With `pairs`,
two backslashes belong together, and otherwise each of them is on its own. -/
def readQuoted (pairs : Bool) : Bool → List Char → Option (List Char × List Char)
  | _, [] => none
  | false, c :: r =>
    if c == quoteMark then some ([], r)
    else if c == '\\' then readQuoted pairs true r
    else (readQuoted pairs false r).map (push c)
  | true, c :: r =>
    if c == quoteMark then (readQuoted pairs false r).map (push c)
    else if c == '\\' && !pairs then (readQuoted pairs true r).map (push '\\')
    else (readQuoted pairs false r).map (push '\\' ∘ push c)

/-- Read a word as far as it goes. The words of the language are no values. -/
def readWord (cs : List Char) : Option (List Char × List Char) :=
  let word := cs.takeWhile continuesWord
  if isKeyword word then none else some (word, cs.drop word.length)

/-- Read a number without a sign as far as it goes. -/
def readUnsigned (cs : List Char) : Option (List Char × List Char) :=
  let whole := cs.takeWhile Char.isDigit
  match cs.drop whole.length with
  | '.' :: r =>
    let part := r.takeWhile Char.isDigit
    if whole.isEmpty && part.isEmpty then none
    else some (whole ++ '.' :: part, r.drop part.length)
  | r => if whole.isEmpty then none else some (whole, r)

def readNumeral : List Char → Option (List Char × List Char)
  | '-' :: r => (readUnsigned r).map (push '-')
  | cs => readUnsigned cs

/-- Read a text from the front, with what is behind it. Markup is none. -/
def readText (pairs : Bool) : List Char → Option (List Char × List Char)
  | [] => none
  | c :: r =>
    if c == quoteMark then readQuoted pairs false r
    else if startsWord c then readWord (c :: r)
    else readNumeral (c :: r)

end Reader

section Slashes

/-- The number of backslashes at the end of a text. -/
def slashes (cs : List Char) : Nat := (cs.reverse.takeWhile (· == '\\')).length

theorem slashes_concat (cs : List Char) (c : Char) :
    slashes (cs ++ [c]) = if c = '\\' then slashes cs + 1 else 0 := by
  unfold slashes
  rw [List.reverse_append, List.reverse_singleton, List.singleton_append, List.takeWhile_cons]
  by_cases same : c = '\\' <;> simp [same]

theorem slashes_eq_zero {cs : List Char} (none : '\\' ∉ cs) : slashes cs = 0 := by
  rw [slashes, List.takeWhile_eq_nil_iff.mpr, List.length_nil]
  intro inside
  rw [beq_iff_eq]
  intro same
  exact none (same ▸ List.mem_reverse.mp (List.getElem_mem inside))

end Slashes

section Quoted

variable {pairs : Bool}

/-- The last of a number of backslashes has an effect on a quote behind it. -/
def counts (pairs : Bool) (n : Nat) : Bool := if pairs then n % 2 == 1 else n != 0

@[simp] theorem counts_zero (pairs : Bool) : counts pairs 0 = false := by cases pairs <;> rfl

theorem counts_true_succ (n : Nat) : counts true (n + 1) = !counts true n := by
  unfold counts
  rcases Nat.mod_two_eq_zero_or_one n with even | odd
  · simp [even, show (n + 1) % 2 = 1 by omega]
  · simp [odd, show (n + 1) % 2 = 0 by omega]

/-- The last of a number of backslashes, if it has an effect. -/
def loose (pairs : Bool) (n : Nat) : List Char := if counts pairs n then ['\\'] else []

@[simp] theorem loose_zero (pairs : Bool) : loose pairs 0 = [] := by simp [loose]

/-- Behind a text, a text can be put between quotes and closed: quotes in it stand behind an even
number of backslashes, and no backslash at its end has an effect. -/
structure Closes (pairs : Bool) (before cs : List Char) : Prop where
  quotes : ∀ front back, cs = front ++ quoteMark :: back → slashes (before ++ front) % 2 = 0
  ending : counts pairs (slashes (before ++ cs)) = false

variable {before cs r behind rest : List Char} {c : Char}

theorem closes_nil_iff : Closes pairs before [] ↔ counts pairs (slashes before) = false := by
  constructor
  · intro h
    simpa using h.ending
  · intro ending
    exact ⟨by simp, by simpa using ending⟩

theorem closes_cons_iff : Closes pairs before (c :: r) ↔
    (c = quoteMark → slashes before % 2 = 0) ∧ Closes pairs (before ++ [c]) r := by
  have swap (cs : List Char) : before ++ c :: cs = (before ++ [c]) ++ cs := by simp
  constructor
  · intro h
    refine ⟨?_, fun front back split => ?_, swap r ▸ h.ending⟩
    · rintro rfl
      simpa using h.quotes [] r rfl
    · rw [← swap]
      exact h.quotes (c :: front) back (by rw [split, List.cons_append])
  · rintro ⟨first, h⟩
    refine ⟨fun front back split => ?_, swap r ▸ h.ending⟩
    rcases List.cons_eq_append_iff.mp split with ⟨rfl, same⟩ | ⟨front', rfl, later⟩
    · simpa using first (List.cons.inj same).1.symm
    · rw [swap]
      exact h.quotes front' back later

theorem map_push_eq_some_iff {x : Option (List Char × List Char)} :
    x.map (push c) = some (c :: cs, rest) ↔ x = some (cs, rest) := by
  cases x <;> simp [push, Prod.ext_iff]

theorem map_push_push_eq_some_iff {d : Char} {x : Option (List Char × List Char)} :
    x.map (push c ∘ push d) = some (c :: d :: cs, rest) ↔ x = some (cs, rest) := by
  rw [← Option.map_map, map_push_eq_some_iff, map_push_eq_some_iff]

/-- One more backslash is read with those in front of it. -/
theorem readQuoted_slash {n : Nat} {value : List Char} :
    readQuoted pairs (counts pairs n) ('\\' :: r) = some (loose pairs n ++ '\\' :: value, rest) ↔
      readQuoted pairs (counts pairs (n + 1)) r = some (loose pairs (n + 1) ++ value, rest) := by
  unfold loose
  cases pairs with
  | true =>
    rw [counts_true_succ]
    cases counts true n with
    | false => exact Iff.rfl
    | true => exact map_push_push_eq_some_iff
  | false =>
    cases n with
    | zero => exact Iff.rfl
    | succ n => exact map_push_eq_some_iff

/-- A sign that is neither a quote nor a backslash ends the backslashes. -/
theorem readQuoted_other {n : Nat} {value : List Char} (plain : c ≠ quoteMark) (other : c ≠ '\\') :
    readQuoted pairs (counts pairs n) (c :: r) = some (loose pairs n ++ c :: value, rest) ↔
      readQuoted pairs false r = some (value, rest) := by
  unfold loose
  cases counts pairs n with
  | false =>
    simp only [readQuoted, beq_iff_eq, plain, other, if_false]
    exact map_push_eq_some_iff
  | true =>
    simp only [readQuoted, beq_iff_eq, plain, other, Bool.and_eq_true, false_and, if_false]
    exact map_push_push_eq_some_iff

/-- A quote behind an even number of backslashes is written with one more. -/
theorem readQuoted_escaped {n : Nat} {value : List Char} (even : n % 2 = 0) :
    readQuoted pairs (counts pairs n) ('\\' :: quoteMark :: r) =
        some (loose pairs n ++ quoteMark :: value, rest) ↔
      readQuoted pairs false r = some (value, rest) := by
  unfold loose
  cases counted : counts pairs n with
  | false => exact map_push_eq_some_iff
  | true =>
    have single : pairs = false := by
      cases pairs with
      | false => rfl
      | true => simp [counts, even] at counted
    rw [single]
    exact map_push_eq_some_iff.trans map_push_eq_some_iff

/-- A quote behind an odd number of backslashes is written as it is, and one of them is lost. -/
theorem readQuoted_not_escaped {n : Nat} {value : List Char} (odd : n % 2 = 1) :
    readQuoted pairs (counts pairs n) (quoteMark :: r) ≠
      some (loose pairs n ++ quoteMark :: value, rest) := by
  have counted : counts pairs n = true := by
    cases pairs with
    | false => simp [counts]; omega
    | true => simp [counts, odd]
  rw [loose, counted]
  intro read
  obtain ⟨_, _, same⟩ := Option.map_eq_some_iff.mp read
  cases (List.cons.inj (Prod.mk.inj same).1).1

/-- The closing quote is read as such unless a backslash in front has an effect. -/
theorem readQuoted_end {n : Nat} :
    readQuoted pairs (counts pairs n) (quoteMark :: behind) = some (loose pairs n, rest) ↔
      rest = behind ∧ counts pairs n = false := by
  unfold loose
  cases counts pairs n with
  | false => simp [readQuoted, eq_comm]
  | true =>
    refine iff_of_false (fun read => ?_) nofun
    obtain ⟨_, _, same⟩ := Option.map_eq_some_iff.mp read
    cases (List.cons.inj (Prod.mk.inj same).1).1

theorem escapeQuotes_slash (n : Nat) :
    escapeQuotes (n % 2 == 1) ('\\' :: r) = '\\' :: escapeQuotes ((n + 1) % 2 == 1) r := by
  have next : ((n + 1) % 2 == 1) = !(n % 2 == 1) := counts_true_succ n
  rw [next]
  rfl

theorem escapeQuotes_other {escaped : Bool} (plain : c ≠ quoteMark) (other : c ≠ '\\') :
    escapeQuotes escaped (c :: r) = c :: escapeQuotes false r := by
  have noSlash : (c == '\\') = false := beq_false_of_ne other
  simp [escapeQuotes, plain, noSlash]

/-- A text that was put between quotes behind another one is read back, with the backslash that is
still to be read, just when it can be closed there. -/
theorem readQuoted_escapeQuotes_iff :
    readQuoted pairs (counts pairs (slashes before))
        (escapeQuotes (slashes before % 2 == 1) cs ++ quoteMark :: behind) =
          some (loose pairs (slashes before) ++ cs, rest) ↔
      rest = behind ∧ Closes pairs before cs := by
  induction cs generalizing before with
  | nil =>
    rw [closes_nil_iff, List.append_nil]
    exact readQuoted_end
  | cons c r ih =>
    replace ih := @ih (before ++ [c])
    rw [closes_cons_iff]
    by_cases quote : c = quoteMark
    · subst quote
      have ended : slashes (before ++ [quoteMark]) = 0 := slashes_concat before quoteMark
      rw [ended] at ih
      rcases Nat.mod_two_eq_zero_or_one (slashes before) with even | odd
      · have written : escapeQuotes (slashes before % 2 == 1) (quoteMark :: r) =
            '\\' :: quoteMark :: escapeQuotes false r := by
          rw [even]
          rfl
        rw [written, List.cons_append, List.cons_append, readQuoted_escaped even]
        simpa [even] using ih
      · have written : escapeQuotes (slashes before % 2 == 1) (quoteMark :: r) =
            quoteMark :: escapeQuotes false r := by
          rw [odd]
          rfl
        rw [written, List.cons_append]
        refine iff_of_false (readQuoted_not_escaped odd) fun h => ?_
        simp [odd] at h
    by_cases slash : c = '\\'
    · subst slash
      rw [slashes_concat, if_pos rfl] at ih
      rw [escapeQuotes_slash, List.cons_append, readQuoted_slash, ih]
      simp [quote]
    · rw [slashes_concat, if_neg slash] at ih
      rw [escapeQuotes_other quote slash, List.cons_append, readQuoted_other quote slash]
      simpa [quote] using ih

end Quoted

section Plain

variable {pairs : Bool} {w behind : List Char} {c : Char}

theorem takeWhile_append_cons {p : Char → Bool} (inside : ∀ a ∈ w, p a = true)
    (ends : p c = false) : (w ++ c :: behind).takeWhile p = w := by
  rw [List.takeWhile_append_of_pos inside, List.takeWhile_cons_of_neg (by simp [ends]),
    List.append_nil]

theorem isWordChar_of_isWord (word : isWord w = true) : ∀ a ∈ w, isWordChar a = true := by
  cases w with
  | nil => nofun
  | cons a r =>
    simp only [isWord, Bool.and_eq_true, List.all_eq_true] at word
    simp only [List.forall_mem_cons]
    exact ⟨by simp [isWordChar, word.1], word.2⟩

/-- What an unsigned number consists of. -/
theorem exists_of_isUnsigned (number : isUnsigned w = true) :
    ∃ whole, (∀ a ∈ whole, a.isDigit = true) ∧
      (w = whole ∧ whole ≠ [] ∨
        ∃ part, w = whole ++ '.' :: part ∧ (∀ a ∈ part, a.isDigit = true) ∧
          (whole ≠ [] ∨ part ≠ [])) := by
  have split : w = w.takeWhile Char.isDigit ++ w.drop (w.takeWhile Char.isDigit).length :=
    (List.prefix_iff_eq_append.mp (List.takeWhile_prefix _)).symm
  have digits : ∀ a ∈ w.takeWhile Char.isDigit, a.isDigit = true :=
    fun a mem => List.mem_takeWhile_imp mem
  unfold isUnsigned at number
  dsimp only at number
  generalize w.takeWhile Char.isDigit = whole at number split digits
  refine ⟨whole, digits, ?_⟩
  split at number
  case h_1 ended =>
    rw [ended, List.append_nil] at split
    exact .inl ⟨split, by simpa using number⟩
  case h_2 part ended =>
    rw [ended] at split
    exact .inr ⟨part, split, by simpa using number⟩
  case h_3 => cases number

theorem readUnsigned_append (number : isUnsigned w = true) (digit : c.isDigit = false)
    (dot : c ≠ '.') : readUnsigned (w ++ c :: behind) = some (w, c :: behind) := by
  obtain ⟨whole, digits, ⟨rfl, some⟩ | ⟨part, rfl, more, some⟩⟩ := exists_of_isUnsigned number
  · have read : (w ++ c :: behind).takeWhile Char.isDigit = w := takeWhile_append_cons digits digit
    unfold readUnsigned
    dsimp only
    rw [read, List.drop_left]
    split
    · rename_i same
      exact absurd (List.cons.inj same).1 dot
    · simp [some]
  · have read : (whole ++ '.' :: part ++ c :: behind).takeWhile Char.isDigit = whole := by
      rw [List.append_assoc]
      exact takeWhile_append_cons digits rfl
    unfold readUnsigned
    dsimp only
    rw [read, List.append_assoc, List.drop_left, List.cons_append]
    split
    · rename_i r same
      rw [← (List.cons.inj same).2, takeWhile_append_cons more digit, List.drop_left,
        if_neg (by simpa [imp_iff_not_or] using some)]
    · rename_i other
      exact absurd rfl (other _)

/-- The characters of a number. -/
theorem mem_of_isNumeral (number : isNumeral w = true) :
    ∀ a ∈ w, a.isDigit = true ∨ a = '.' ∨ a = '-' := by
  have unsigned {v : List Char} (number : isUnsigned v = true) :
      ∀ a ∈ v, a.isDigit = true ∨ a = '.' ∨ a = '-' := by
    obtain ⟨whole, digits, ⟨rfl, -⟩ | ⟨part, rfl, more, -⟩⟩ := exists_of_isUnsigned number
    · exact fun a mem => .inl (digits a mem)
    · intro a mem
      rcases List.mem_append.mp mem with mem | mem
      · exact .inl (digits a mem)
      · rcases List.mem_cons.mp mem with rfl | mem
        · exact .inr (.inl rfl)
        · exact .inl (more a mem)
  unfold isNumeral at number
  split at number
  · intro a mem
    rcases List.mem_cons.mp mem with rfl | mem
    · exact .inr (.inr rfl)
    · exact unsigned number a mem
  · exact unsigned number

theorem readNumeral_append (number : isNumeral w = true) (digit : c.isDigit = false)
    (dot : c ≠ '.') : readNumeral (w ++ c :: behind) = some (w, c :: behind) := by
  unfold isNumeral at number
  split at number
  case h_1 r =>
    rw [List.cons_append, readNumeral, readUnsigned_append number digit dot]
    rfl
  case h_2 unsigned =>
    rw [readNumeral, readUnsigned_append number digit dot]
    intro r same
    cases w with
    | nil => cases number
    | cons a v => exact unsigned v (by rw [(List.cons.inj same).1])

/-- A character of a number begins no word and no text between quotes. -/
theorem numeral_char (number : c.isDigit = true ∨ c = '.' ∨ c = '-') :
    startsWord c = false ∧ c ≠ quoteMark ∧ c ≠ '\\' := by
  rcases number with digit | rfl | rfl
  · have bounds : 48 ≤ c.toNat ∧ c.toNat ≤ 57 := by
      simpa [Char.isDigit, UInt32.le_iff_toNat_le] using digit
    have noUpper : c.isUpper = false := by
      refine decide_eq_false ?_
      simp [UInt32.le_iff_toNat_le]
      omega
    have noLower : c.isLower = false := by
      change (decide (c.val ≥ 'a'.val) && decide (c.val ≤ 'z'.val)) = false
      simp [UInt32.le_iff_toNat_le]
      omega
    have noLetter : c.isAlpha = false := Bool.or_eq_false_iff.mpr ⟨noUpper, noLower⟩
    refine ⟨?_, ?_, ?_⟩
    · simp only [startsWord, isWordStart, noLetter, Bool.false_or, Bool.or_eq_false_iff]
      refine ⟨beq_false_of_ne ?_, by simp; omega⟩
      rintro rfl
      cases digit
    · rintro rfl
      cases digit
    · rintro rfl
      cases digit
  · decide
  · decide

theorem readWord_append (word : isWord w = true) (ends : continuesWord c = false) :
    readWord (w ++ c :: behind) = if isKeyword w then none else some (w, c :: behind) := by
  have goesOn : ∀ a ∈ w, continuesWord a = true := fun a mem => by
    simp [continuesWord, isWordChar_of_isWord word a mem]
  unfold readWord
  dsimp only
  rw [takeWhile_append_cons goesOn ends, List.drop_left]

/-- What ends a word and a number. -/
def Ends (c : Char) : Prop := continuesWord c = false ∧ c.isDigit = false ∧ c ≠ '.'

/-- A word or a number is read as far as it goes, and a word of the language is refused. -/
theorem readText_append (pairs : Bool) (behind : List Char)
    (plain : (isWord w || isNumeral w) = true) (ends : Ends c) :
    readText pairs (w ++ c :: behind) = some (w, c :: behind) ∨
      isKeyword w = true ∧ readText pairs (w ++ c :: behind) = none := by
  rw [Bool.or_eq_true] at plain
  cases w with
  | nil => rcases plain with word | number <;> contradiction
  | cons a r =>
    rw [List.cons_append, readText]
    by_cases word : isWord (a :: r) = true
    · have start : isWordStart a = true := (Bool.and_eq_true_iff.mp word).1
      have noQuote : (a == quoteMark) = false := by
        rw [beq_eq_false_iff_ne]
        rintro rfl
        cases start
      have starts : startsWord a = true := by simp [startsWord, start]
      rw [noQuote, starts, ← List.cons_append]
      simp only [Bool.false_eq_true, if_false, if_true]
      rw [readWord_append word ends.1]
      cases isKeyword (a :: r) with
      | true => exact .inr ⟨rfl, rfl⟩
      | false => exact .inl rfl
    · have number := plain.resolve_left word
      obtain ⟨noWord, noQuote, -⟩ := numeral_char (mem_of_isNumeral number a List.mem_cons_self)
      rw [beq_false_of_ne noQuote, noWord, ← List.cons_append]
      exact .inl (readNumeral_append number ends.2.1 ends.2.2)

/-- There is no quote and no backslash in a word or a number. -/
theorem plain_char (plain : (isWord w || isNumeral w) = true) :
    ∀ a ∈ w, a ≠ quoteMark ∧ a ≠ '\\' := by
  intro a mem
  rcases Bool.or_eq_true_iff.mp plain with word | number
  · have letter := isWordChar_of_isWord word a mem
    constructor
    · rintro rfl
      cases letter
    · rintro rfl
      cases letter
  · exact (numeral_char (mem_of_isNumeral number a mem)).2

end Plain

section Text

variable {pairs : Bool} {cs behind rest : List Char}

/-- The text is the same when it is written as a value and read back: it is no markup, it is no word
or number with a line feed at its end, and it can be put between quotes and closed. -/
structure Survives (pairs : Bool) (cs : List Char) : Prop where
  text : isMarkup cs = false
  whole : isPlain cs = true → cs.getLast? ≠ some '\n'
  closes : Closes pairs [] cs

theorem readText_markup (markup : isMarkup cs = true) : readText pairs (cs ++ behind) = none := by
  rw [isMarkup, Bool.and_eq_true, beq_iff_eq] at markup
  obtain ⟨r, rfl⟩ := List.head?_eq_some_iff.mp markup.1
  rfl

/-- No word of the language ends with a line feed. -/
theorem isKeyword_whole (keyword : isKeyword cs = true) : cs.getLast? ≠ some '\n' := by
  intro last
  have letters : ∀ k ∈ keywords, k.toList.getLast? ≠ some '\n' := by decide
  refine letters _ (List.contains_iff_mem.mp keyword) ?_
  rw [String.toList_ofList, List.getLast?_map, last]
  rfl

theorem dropFinalLine_of_whole (whole : cs.getLast? ≠ some '\n') : dropFinalLine cs = cs := by
  simp [dropFinalLine, whole]

/-- A word or a number survives without a line feed at its end. -/
theorem survives_of_plain (text : isMarkup cs = false) (plain : isPlain cs = true)
    (whole : cs.getLast? ≠ some '\n') : Survives pairs cs := by
  rw [isPlain, dropFinalLine_of_whole whole] at plain
  refine ⟨text, fun _ => whole, fun front back split => ?_, ?_⟩
  · exact absurd rfl (plain_char plain quoteMark (by simp [split])).1
  · rw [List.nil_append, slashes_eq_zero fun mem => (plain_char plain _ mem).2 rfl, counts_zero]

/-- A text in front of a blank is read back exactly when it survives. -/
theorem readText_quoteChars_iff :
    readText pairs (quoteChars cs ++ ' ' :: behind) = some (cs, rest) ↔
      rest = ' ' :: behind ∧ Survives pairs cs := by
  unfold quoteChars
  by_cases markup : isMarkup cs = true
  · rw [if_pos markup, readText_markup markup]
    refine iff_of_false nofun fun h => ?_
    rw [h.2.text] at markup
    cases markup
  rw [if_neg markup]
  rw [Bool.not_eq_true] at markup
  by_cases bare : (isPlain cs && !isKeyword cs) = true
  · rw [if_pos bare]
    rw [Bool.and_eq_true, Bool.not_eq_true'] at bare
    by_cases last : cs.getLast? = some '\n'
    · refine iff_of_false (fun read => ?_) fun h => h.2.whole bare.1 last
      obtain ⟨w, rfl⟩ := List.getLast?_eq_some_iff.mp last
      have plain : (isWord w || isNumeral w) = true := by
        simpa [isPlain, dropFinalLine] using bare.1
      rw [List.append_assoc, List.singleton_append] at read
      have ends : Ends '\n' := ⟨rfl, rfl, by decide⟩
      rcases readText_append pairs (' ' :: behind) plain ends with short | ⟨-, refused⟩
      · rw [short] at read
        simpa using congrArg Prod.fst (Option.some.inj read)
      · rw [refused] at read
        cases read
    · have plain : (isWord cs || isNumeral cs) = true := by
        simpa [isPlain, dropFinalLine_of_whole last] using bare.1
      have ends : Ends ' ' := ⟨rfl, rfl, by decide⟩
      have read := readText_append pairs behind plain ends
      rw [bare.2] at read
      rw [read.resolve_right nofun]
      simp [survives_of_plain markup bare.1 last, eq_comm]
  · rw [if_neg bare]
    have whole : isPlain cs = true → cs.getLast? ≠ some '\n' := fun plain => by
      refine isKeyword_whole ?_
      simpa [plain] using bare
    have closes : Survives pairs cs ↔ Closes pairs [] cs :=
      ⟨fun h => h.closes, fun h => ⟨markup, whole, h⟩⟩
    rw [closes, ← readQuoted_escapeQuotes_iff]
    have none : slashes [] = 0 := rfl
    rw [none, counts_zero, loose_zero, List.nil_append, List.append_assoc]
    rfl

end Text

end QueryFlow.Dot
