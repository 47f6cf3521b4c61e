import QueryFlow.Proofs.Dot.Values

/-!
Names of nodes and clusters as the solver reads them. A name that is no word or number is written
between quotes, where a backslash has an effect on a quote, on a backslash and on the end of a line
behind it. So names that differ may be read as one, and a name may not be closed. The main
statement says exactly which names are read as they are. Markup names a node in another way and is
left out.
-/

namespace QueryFlow.Dot

/-- Read on between double quotes up to the one that closes. Behind a backslash a quote is part of
the text, a backslash belongs to it, and the end of a line is dropped with it. -/
def scanQuoted : List Char → Option (List Char × List Char)
  | '\\' :: '\n' :: r => scanQuoted r
  | '\\' :: '\r' :: '\n' :: r => scanQuoted r
  | '\\' :: c :: r =>
    if c == quoteMark then (scanQuoted r).map (push c) else (scanQuoted r).map (push '\\' ∘ push c)
  | c :: r => if c == quoteMark then some ([], r) else (scanQuoted r).map (push c)
  | [] => none

def scanName : List Char → Option (List Char × List Char)
  | [] => none
  | c :: r => if c == quoteMark then scanQuoted r else readText true (c :: r)

/-- What a name is read as where it is written in front of a blank. -/
def nameOf? (s : String) : Option String :=
  (scanName (quoteChars s.toList ++ [' '])).map fun x => String.ofList x.1

/-- The text begins with the end of a line. -/
def endsLine : List Char → Bool
  | '\n' :: _ => true
  | '\r' :: '\n' :: _ => true
  | _ => false

/-- Backslashes are taken in pairs, and each that is left over has no effect: it is not at the end
and not in front of a quote or the end of a line. -/
def keeps : List Char → Bool
  | '\\' :: c :: r => !endsLine (c :: r) && c != quoteMark && keeps r
  | c :: r => c != '\\' && keeps r
  | [] => true

/-- The name is read as it is. -/
structure Named (cs : List Char) : Prop where
  text : isMarkup cs = false
  whole : isPlain cs = true → cs.getLast? ≠ some '\n'
  keeps : keeps cs = true

instance (cs : List Char) : Decidable (Named cs) :=
  decidable_of_iff (isMarkup cs = false ∧ (isPlain cs = true → cs.getLast? ≠ some '\n') ∧
    keeps cs = true) ⟨fun h => ⟨h.1, h.2.1, h.2.2⟩, fun h => ⟨h.text, h.whole, h.keeps⟩⟩

section Quoted

variable {c : Char} {cs r t behind rest value : List Char}
  {found : Option (List Char × List Char)}

theorem exists_of_map_push (read : found.map (push c) = some (value, rest)) :
    ∃ v, value = c :: v ∧ found = some (v, rest) := by
  obtain ⟨⟨v, _⟩, rfl, ⟨⟩⟩ := Option.map_eq_some_iff.mp read
  exact ⟨v, rfl, rfl⟩

theorem endsLine_eq_false_iff :
    endsLine (c :: t) = false ↔ c ≠ '\n' ∧ ∀ t', c = '\r' → t ≠ '\n' :: t' := by
  constructor
  · intro none
    refine ⟨?_, ?_⟩
    · rintro rfl
      cases none
    · rintro t' rfl rfl
      cases none
  · rintro ⟨line, lines⟩
    unfold endsLine
    split
    case h_1 same => exact absurd (List.cons.inj same).1 line
    case h_2 same => exact absurd (List.cons.inj same).2 (lines _ (List.cons.inj same).1)
    case h_3 => rfl

theorem escapeQuotes_pair :
    escapeQuotes false ('\\' :: c :: r) = '\\' :: c :: escapeQuotes false r := by
  by_cases quote : c = quoteMark <;> simp [escapeQuotes, quote, quoteMark]

theorem escapeQuotes_quote :
    escapeQuotes false (quoteMark :: r) = '\\' :: quoteMark :: escapeQuotes false r := rfl

theorem scanQuoted_pair (inLine : endsLine (c :: t) = false) :
    scanQuoted ('\\' :: c :: t) =
      if c == quoteMark then (scanQuoted t).map (push c)
      else (scanQuoted t).map (push '\\' ∘ push c) := by
  obtain ⟨line, lines⟩ := endsLine_eq_false_iff.mp inLine
  rw [scanQuoted]
  · exact line
  · exact fun t' same behind => lines t' same behind

theorem scanQuoted_quote :
    scanQuoted ('\\' :: quoteMark :: t) = (scanQuoted t).map (push quoteMark) :=
  scanQuoted_pair rfl

theorem scanQuoted_other (plain : c ≠ quoteMark) (other : c ≠ '\\') :
    scanQuoted (c :: t) = (scanQuoted t).map (push c) := by
  rw [scanQuoted, if_neg (by simpa using plain)]
  · exact fun _ slash _ => other slash
  · exact fun _ slash _ => other slash
  · exact fun _ _ slash _ => other slash

/-- Only a name that begins with the end of a line is written with one in front. -/
theorem head_escapeQuotes (same : escapeQuotes false r ++ quoteMark :: behind = '\n' :: t) :
    ∃ r', r = '\n' :: r' := by
  cases r with
  | nil => exact absurd (List.cons.inj same).1 (by decide)
  | cons a r' =>
    by_cases quote : a = quoteMark
    · subst quote
      exact absurd (List.cons.inj same).1 (by decide)
    · have written : escapeQuotes false (a :: r') = a :: escapeQuotes (a == '\\') r' := by
        simp [escapeQuotes, quote]
      rw [written] at same
      exact ⟨r', by rw [(List.cons.inj same).1]⟩

theorem endsLine_written (inLine : endsLine (c :: r) = false) :
    endsLine (c :: (escapeQuotes false r ++ quoteMark :: behind)) = false := by
  obtain ⟨line, lines⟩ := endsLine_eq_false_iff.mp inLine
  refine endsLine_eq_false_iff.mpr ⟨line, fun t' same begins => ?_⟩
  obtain ⟨r', rfl⟩ := head_escapeQuotes begins
  exact lines r' same rfl

/-- A name in which no backslash has an effect is read as it is, up to its closing quote. -/
theorem scanQuoted_of_keeps (kept : keeps cs = true) :
    scanQuoted (escapeQuotes false cs ++ quoteMark :: behind) = some (cs, behind) := by
  fun_induction keeps cs with
  | case1 c r ih =>
    simp only [Bool.and_eq_true, Bool.not_eq_true', bne_iff_ne] at kept
    obtain ⟨⟨inLine, quote⟩, kept⟩ := kept
    rw [escapeQuotes_pair, List.cons_append, List.cons_append,
      scanQuoted_pair (endsLine_written inLine), ih kept, if_neg (by simpa using quote)]
    rfl
  | case2 c r _ ih =>
    rw [Bool.and_eq_true, bne_iff_ne] at kept
    by_cases quote : c = quoteMark
    · subst quote
      rw [escapeQuotes_quote, List.cons_append, List.cons_append, scanQuoted_quote, ih kept.2]
      rfl
    · rw [escapeQuotes_other quote kept.1, List.cons_append, scanQuoted_other quote kept.1,
        ih kept.2]
      rfl
  | case3 => rfl

/-- What is read behind a dropped end of a line is what is read behind its last character. -/
theorem scanQuoted_lines
    (read : scanQuoted ('\\' :: '\r' :: (escapeQuotes false ('\n' :: r) ++ t)) =
      some (value, rest)) :
    scanQuoted (escapeQuotes false ('\n' :: r) ++ t) = some ('\n' :: value, rest) := by
  have inside : escapeQuotes false ('\n' :: r) = '\n' :: escapeQuotes false r := rfl
  rw [inside, List.cons_append, scanQuoted_other (by decide) (by decide)]
  exact congrArg (Option.map (push '\n')) read

/-- Of a text that is shorter than the name, nothing else has to be known. -/
theorem written_of_shorter (short : value.length < cs.length) :
    value.length ≤ cs.length ∧ (value = cs → keeps cs = true) :=
  ⟨short.le, fun same => absurd (congrArg List.length same) short.ne⟩

/-- What is read is not longer than the name, and it is the name only if no backslash has an
effect. -/
theorem scanQuoted_written
    (read : scanQuoted (escapeQuotes false cs ++ [quoteMark, ' ']) = some (value, rest)) :
    value.length ≤ cs.length ∧ (value = cs → keeps cs = true) := by
  fun_induction keeps cs generalizing value with
  | case1 c r ih =>
    rw [escapeQuotes_pair, List.cons_append, List.cons_append] at read
    by_cases line : c = '\n'
    · subst line
      have short := (ih read).1
      exact written_of_shorter (by simp; omega)
    by_cases lines : ∃ r', c = '\r' ∧ r = '\n' :: r'
    · obtain ⟨r', rfl, rfl⟩ := lines
      have short := (ih (scanQuoted_lines read)).1
      exact written_of_shorter (by simp at short ⊢; omega)
    have inLine : endsLine (c :: r) = false :=
      endsLine_eq_false_iff.mpr ⟨line, fun r' same behind => lines ⟨r', same, behind⟩⟩
    rw [scanQuoted_pair (endsLine_written inLine)] at read
    by_cases quote : c = quoteMark
    · subst quote
      obtain ⟨v, rfl, behind⟩ := exists_of_map_push read
      have short := (ih behind).1
      exact written_of_shorter (by simp; omega)
    · rw [if_neg (by simpa using quote), ← Option.map_map] at read
      obtain ⟨w, rfl, next⟩ := exists_of_map_push read
      obtain ⟨v, rfl, behind⟩ := exists_of_map_push next
      obtain ⟨short, kept⟩ := ih behind
      refine ⟨by simpa using short, fun same => ?_⟩
      simp [inLine, quote, kept (List.cons.inj (List.cons.inj same).2).2]
  | case2 c r alone ih =>
    by_cases quote : c = quoteMark
    · subst quote
      rw [escapeQuotes_quote, List.cons_append, List.cons_append, scanQuoted_quote] at read
      obtain ⟨v, rfl, behind⟩ := exists_of_map_push read
      obtain ⟨short, kept⟩ := ih behind
      refine ⟨by simpa using short, fun same => ?_⟩
      simpa [quoteMark] using kept (List.cons.inj same).2
    by_cases slash : c = '\\'
    · subst slash
      cases r with
      | nil => cases read
      | cons a r => exact absurd rfl (alone a r rfl)
    · rw [escapeQuotes_other quote slash, List.cons_append, scanQuoted_other quote slash] at read
      obtain ⟨v, rfl, behind⟩ := exists_of_map_push read
      obtain ⟨short, kept⟩ := ih behind
      refine ⟨by simpa using short, fun same => ?_⟩
      simp [slash, kept (List.cons.inj same).2]
  | case3 =>
    cases read
    exact ⟨le_rfl, fun _ => rfl⟩

end Quoted

section Name

variable {cs rest value : List Char} {s t : String}

/-- There is no quote and no backslash in what is written without quotes. -/
theorem isPlain_char (plain : isPlain cs = true) : ∀ a ∈ cs, a ≠ quoteMark ∧ a ≠ '\\' := by
  intro a mem
  by_cases last : cs.getLast? = some '\n'
  · obtain ⟨w, rfl⟩ := List.getLast?_eq_some_iff.mp last
    rcases List.mem_append.mp mem with mem | mem
    · exact plain_char (by simpa [isPlain, dropFinalLine] using plain) a mem
    · rw [List.mem_singleton.mp mem]
      decide
  · rw [isPlain, dropFinalLine_of_whole last] at plain
    exact plain_char plain a mem

theorem keeps_of_notMem (none : '\\' ∉ cs) : keeps cs = true := by
  fun_induction keeps cs with
  | case1 => exact absurd List.mem_cons_self none
  | case2 c r _ ih =>
    rw [List.mem_cons, not_or] at none
    simp [Ne.symm none.1, ih none.2]
  | case3 => rfl

/-- Without quotes a name is read up to the blank, or up to the line feed at its end. -/
theorem scanName_plain (plain : isPlain cs = true) (other : isKeyword cs = false) :
    cs.getLast? ≠ some '\n' ∧ scanName (cs ++ [' ']) = some (cs, [' ']) ∨
      cs.getLast? = some '\n' ∧
        ∀ value rest, scanName (cs ++ [' ']) = some (value, rest) → value.length < cs.length := by
  have bare : scanName (cs ++ [' ']) = readText true (cs ++ [' ']) := by
    cases cs with
    | nil => rfl
    | cons a r =>
      have noQuote := (isPlain_char plain a List.mem_cons_self).1
      rw [List.cons_append, scanName, if_neg (by simpa using noQuote)]
  rw [bare]
  by_cases last : cs.getLast? = some '\n'
  · obtain ⟨w, rfl⟩ := List.getLast?_eq_some_iff.mp last
    refine .inr ⟨last, fun value rest read => ?_⟩
    have ends : Ends '\n' := ⟨rfl, rfl, by decide⟩
    rw [List.append_assoc, List.singleton_append] at read
    rcases readText_append true [' '] (by simpa [isPlain, dropFinalLine] using plain) ends with
      short | ⟨-, refused⟩
    · cases short.symm.trans read
      simp
    · rw [refused] at read
      cases read
  · have ends : Ends ' ' := ⟨rfl, rfl, by decide⟩
    rw [isPlain, dropFinalLine_of_whole last] at plain
    have read := readText_append true [] plain ends
    rw [other] at read
    exact .inl ⟨last, read.resolve_right fun keyword => Bool.false_ne_true keyword.1⟩

/-- What is read for a name that was written is not longer than the name, and it is the name just
when the name is one that is read as it is. -/
theorem scanName_written
    (read : scanName (quoteChars cs ++ [' ']) = some (value, rest)) :
    value.length ≤ cs.length ∧ (value = cs → Named cs) := by
  unfold quoteChars at read
  by_cases markup : isMarkup cs = true
  · obtain ⟨r, rfl⟩ : ∃ r, cs = '<' :: r := by
      rw [isMarkup, Bool.and_eq_true, beq_iff_eq] at markup
      exact List.head?_eq_some_iff.mp markup.1
    rw [if_pos markup] at read
    cases read
  rw [if_neg markup] at read
  rw [Bool.not_eq_true] at markup
  by_cases bare : (isPlain cs && !isKeyword cs) = true
  · rw [if_pos bare] at read
    rw [Bool.and_eq_true, Bool.not_eq_true'] at bare
    rcases scanName_plain bare.1 bare.2 with ⟨whole, found⟩ | ⟨-, shorter⟩
    · cases found.symm.trans read
      exact ⟨le_rfl, fun _ => ⟨markup, fun _ => whole,
        keeps_of_notMem fun mem => (isPlain_char bare.1 _ mem).2 rfl⟩⟩
    · have short := shorter value rest read
      exact ⟨short.le, fun same => absurd (congrArg List.length same) short.ne⟩
  · rw [if_neg bare, List.append_assoc] at read
    obtain ⟨short, kept⟩ := scanQuoted_written read
    refine ⟨short, fun same => ⟨markup, fun plain => isKeyword_whole ?_, kept same⟩⟩
    simpa [plain] using bare

theorem scanName_of_named (h : Named cs) :
    scanName (quoteChars cs ++ [' ']) = some (cs, [' ']) := by
  unfold quoteChars
  rw [if_neg (by simp [h.text])]
  by_cases bare : (isPlain cs && !isKeyword cs) = true
  · rw [if_pos bare]
    rw [Bool.and_eq_true, Bool.not_eq_true'] at bare
    rcases scanName_plain bare.1 bare.2 with ⟨-, found⟩ | ⟨last, -⟩
    · exact found
    · exact absurd last (h.whole bare.1)
  · rw [if_neg bare, List.append_assoc]
    exact scanQuoted_of_keeps h.keeps

/-- A name is read as it is exactly when it is no markup, no word or number with a line feed at its
end, and no backslash in it has an effect. -/
theorem nameOf?_eq_some_self_iff : nameOf? s = some s ↔ Named s.toList := by
  constructor
  · intro read
    obtain ⟨⟨value, rest⟩, found, same⟩ := Option.map_eq_some_iff.mp read
    refine (scanName_written found).2 ?_
    rw [← same, String.toList_ofList]
  · intro named
    rw [nameOf?, scanName_of_named named, Option.map_some, String.ofList_toList]

example : nameOf? "a\\\"b" = some "a\"b" := by decide +kernel

/-- No name is read as a longer one. -/
theorem length_le_of_nameOf? (read : nameOf? s = some t) : t.toList.length ≤ s.toList.length := by
  obtain ⟨⟨value, rest⟩, found, rfl⟩ := Option.map_eq_some_iff.mp read
  rw [String.toList_ofList]
  exact (scanName_written found).1

end Name

end QueryFlow.Dot
