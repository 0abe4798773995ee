/-
Cutting a text: at the first occurrence of a mark, behind its last one, or after a run of
characters of one class.
-/
namespace GrammarSieve.Text

/-- A run is taken whole if its characters are of the class and the next one is not. -/
theorem takeWhile_append_of_stop {p : Char → Bool} {run rest : List Char}
    (hrun : ∀ c ∈ run, p c = true) (hstop : ∀ c ∈ rest.head?, p c = false) :
    (run ++ rest).takeWhile p = run := by
  rw [List.takeWhile_append_of_pos hrun]
  cases rest with
  | nil => simp
  | cons c rest => simp [hstop c rfl]

theorem dropWhile_append_of_stop {p : Char → Bool} {run rest : List Char}
    (hrun : ∀ c ∈ run, p c = true) (hstop : ∀ c ∈ rest.head?, p c = false) :
    (run ++ rest).dropWhile p = rest := by
  rw [List.dropWhile_append_of_pos hrun]
  cases rest with
  | nil => simp
  | cons c rest => simp [hstop c rfl]

/-- A run that is dropped stops at a character that is not of the class. -/
theorem eq_false_of_mem_head?_dropWhile {p : Char → Bool} {text : List Char} :
    ∀ c ∈ (text.dropWhile p).head?, p c = false := by
  intro c hc
  have hhead := List.head?_dropWhile_not p text
  rwa [Option.mem_def.mp hc] at hhead

theorem eq_false_of_takeWhile_eq_nil {p : Char → Bool} {text : List Char}
    (h : text.takeWhile p = []) : ∀ c ∈ text.head?, p c = false := by
  cases text with
  | nil => simp
  | cons c rest =>
      intro d hd
      obtain rfl : c = d := by simpa using hd
      cases hc : p c with
      | false => rfl
      | true => simp [hc] at h

/-- What stands before the first mark and what follows it, if the mark occurs. -/
def cutAtFirst (mark : Char) (text : List Char) : Option (List Char × List Char) :=
  match text.dropWhile (· ≠ mark) with
  | [] => none
  | _ :: rest => some (text.takeWhile (· ≠ mark), rest)

/-- A cut loses nothing but the mark. -/
theorem eq_of_cutAtFirst {mark : Char} {text before after : List Char}
    (h : cutAtFirst mark text = some (before, after)) : text = before ++ mark :: after := by
  rw [cutAtFirst] at h
  split at h
  · simp at h
  · next c rest hdrop =>
      simp only [Option.some.injEq, Prod.mk.injEq] at h
      obtain ⟨rfl, rfl⟩ := h
      have hc : c = mark := by
        have hhead := List.head?_dropWhile_not (· ≠ mark) text
        rw [hdrop] at hhead
        simpa using hhead
      have hsplit := List.takeWhile_append_dropWhile (p := (· ≠ mark)) (l := text)
      rw [hdrop, hc] at hsplit
      exact hsplit.symm

theorem not_mem_of_cutAtFirst {mark : Char} {text before after : List Char}
    (h : cutAtFirst mark text = some (before, after)) : mark ∉ before := by
  rw [cutAtFirst] at h
  split at h
  · simp at h
  · simp only [Option.some.injEq, Prod.mk.injEq] at h
    obtain ⟨rfl, rfl⟩ := h
    intro hmem
    simpa using List.all_eq_true.mp List.all_takeWhile _ hmem

/-- There is no cut only where the mark does not occur. -/
theorem not_mem_of_cutAtFirst_eq_none {mark : Char} {text : List Char}
    (h : cutAtFirst mark text = none) : mark ∉ text := by
  rw [cutAtFirst] at h
  split at h
  · next hdrop =>
      -- The whole text is the run before the mark.
      have hsplit := List.takeWhile_append_dropWhile (p := (· ≠ mark)) (l := text)
      rw [hdrop, List.append_nil] at hsplit
      intro hmem
      rw [← hsplit] at hmem
      simpa using List.all_eq_true.mp List.all_takeWhile _ hmem
  · simp at h

/-- The cut is found wherever the part before the mark is free of it. -/
theorem cutAtFirst_append {mark : Char} {before : List Char} (h : mark ∉ before)
    (after : List Char) : cutAtFirst mark (before ++ mark :: after) = some (before, after) := by
  have hfree : ∀ c ∈ before, (decide (c ≠ mark)) = true := by
    intro c hc
    simpa using fun heq : c = mark => h (heq ▸ hc)
  rw [cutAtFirst, List.takeWhile_append_of_pos hfree, List.dropWhile_append_of_pos hfree]
  simp

/-- A text has one cut only. -/
theorem append_mark_inj {mark : Char} {before before' after after' : List Char}
    (h : mark ∉ before) (h' : mark ∉ before')
    (heq : before ++ mark :: after = before' ++ mark :: after') :
    before = before' ∧ after = after' := by
  have hcut := cutAtFirst_append h after
  rw [heq, cutAtFirst_append h' after'] at hcut
  simpa [eq_comm] using hcut

/-- What follows the last mark; the whole text if the mark does not occur. -/
def afterLast (mark : Char) (text : List Char) : List Char :=
  (text.reverse.takeWhile (· ≠ mark)).reverse

theorem not_mem_afterLast (mark : Char) (text : List Char) : mark ∉ afterLast mark text := by
  intro hmem
  simpa using List.all_eq_true.mp List.all_takeWhile _ (List.mem_reverse.mp hmem)

theorem exists_append_afterLast (mark : Char) (text : List Char) :
    ∃ front, text = front ++ afterLast mark text ∧ (front = [] ∨ [mark] <:+ front) := by
  have hsplit := List.takeWhile_append_dropWhile (p := (· ≠ mark)) (l := text.reverse)
  refine ⟨(text.reverse.dropWhile (· ≠ mark)).reverse, ?_, ?_⟩
  · rw [afterLast, ← List.reverse_append, hsplit, List.reverse_reverse]
  · cases hrest : text.reverse.dropWhile (· ≠ mark) with
    | nil => exact Or.inl rfl
    | cons c rest =>
        have hc : c = mark := by
          have hhead := List.head?_dropWhile_not (· ≠ mark) text.reverse
          rw [hrest] at hhead
          simpa using hhead
        rw [hc, List.reverse_cons]
        exact Or.inr (List.suffix_append _ _)

/-- Nothing follows the last mark of a text that ends in it. -/
theorem ends_of_afterLast_eq_nil {mark : Char} {text : List Char} (h : afterLast mark text = []) :
    text = [] ∨ [mark] <:+ text := by
  obtain ⟨front, hfront, hends⟩ := exists_append_afterLast mark text
  rw [h, List.append_nil] at hfront
  exact hfront ▸ hends

/-- The part behind the last mark is found behind anything that is empty or ends in it. -/
theorem afterLast_append {mark : Char} {front tail : List Char} (htail : mark ∉ tail)
    (hfront : front = [] ∨ [mark] <:+ front) : afterLast mark (front ++ tail) = tail := by
  have hrun : ∀ c ∈ tail.reverse, decide (c ≠ mark) = true := by
    intro c hc
    simpa using fun heq : c = mark => htail (heq ▸ List.mem_reverse.mp hc)
  have hstop : ∀ c ∈ front.reverse.head?, decide (c ≠ mark) = false := by
    rcases hfront with rfl | ⟨before, rfl⟩
    · simp
    · simp
  rw [afterLast, List.reverse_append, takeWhile_append_of_stop hrun hstop,
    List.reverse_reverse]

end GrammarSieve.Text
