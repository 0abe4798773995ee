/-
Decoding looks for the flaws of an entry one after the other.  Each scan performs some of the checks
on what the scan before it left, so decoding fails for the first flaw that the entry has, and has a
result where there is none.
-/
import GrammarSieve.Proofs.Edge.Flaw

namespace GrammarSieve.Edge

open Text (isDigit)

section Steps

variable {encoding : String} {remainder rest : List Char}

theorem performs_splitRelation (encoding : String) :
    Performs (Flawed (.string encoding)) (splitRelation encoding.toList)
      [.noOpening, .noRelation] := by
  rw [splitRelation]
  split
  · next hcut =>
      rw [String.ofList_toList]
      exact FirstFound.head (.noOpening (Text.not_mem_of_cutAtFirst_eq_none hcut))
  · next remainder hcut =>
      have hencoding := Text.eq_of_cutAtFirst hcut
      have hopens : OpensTo encoding.toList remainder := ⟨[], by simp, hencoding⟩
      rw [String.ofList_toList]
      exact FirstFound.cons hopens.clear_noOpening (.head (.noRelation ⟨remainder, hencoding.symm⟩))
  · next relation remainder hne hcut =>
      have hencoding := Text.eq_of_cutAtFirst hcut
      have hfree := Text.not_mem_of_cutAtFirst hcut
      have hopens : OpensTo encoding.toList remainder := ⟨relation, hfree, hencoding⟩
      simp [Performs, hopens.clear_noOpening, clear_noRelation hne hfree hencoding]

theorem performs_scanGovernor (hopens : OpensTo encoding.toList remainder) :
    Performs (Flawed (.string encoding)) (scanGovernor remainder)
      [.noGovernorIndex, .longGovernorIndex, .emptyGovernor] := by
  rw [scanGovernor]
  split
  · next hfound =>
      exact FirstFound.head (.noGovernorIndex hopens (firstAnchor?_eq_none_iff.mp hfound))
  · next before digits after hfound =>
      obtain ⟨hfree, index, rfl, htext⟩ := exists_of_firstAnchor? hfound
      have hanchor := leftmostAnchor_iff.mpr ⟨hfree, htext⟩
      have hindexed := clear_noGovernorIndex hopens hanchor
      split
      · next cause hposition =>
          obtain ⟨hlong, rfl⟩ := index.position_digits_eq_error_iff.mp hposition
          exact FirstFound.cons hindexed (.head (.longGovernorIndex hopens hanchor hlong))
      · next position hposition =>
          obtain ⟨hshort, -⟩ := index.position_digits_eq_ok_iff.mp hposition
          have hread := clear_longGovernorIndex hopens hanchor hshort
          split
          · next hempty =>
              subst hempty
              exact FirstFound.cons hindexed (.cons hread (.head (.emptyGovernor hopens hanchor)))
          · next hne => simp [Performs, hindexed, hread, clear_emptyGovernor hopens hanchor hne]

/-- Where no digit is met behind the apostrophes, there is no index at the end of the text. -/
theorem flawed_noDependentIndex {backwards : List Char} (hrest : AnchorsTo encoding.toList rest)
    (hends : rest = backwards.reverse ++ [')'])
    (hnone : (backwards.dropWhile isCopyMark).takeWhile isDigit = []) :
    Flawed (.string encoding) .noDependentIndex (.noDependentIndex (String.ofList rest)) := by
  have hsplit := List.takeWhile_append_dropWhile (p := isCopyMark) (l := backwards)
  have hmarks : rest = (backwards.dropWhile isCopyMark).reverse ++
      ((backwards.takeWhile isCopyMark).reverse ++ [')']) := by
    rw [hends, ← List.append_assoc, ← List.reverse_append, hsplit]
  apply Flawed.noDependentIndex hrest hmarks
  · intro c hc
    simpa [isCopyMark] using List.mem_takeWhile_imp (List.mem_reverse.mp hc)
  · intro c hc
    rw [List.getLast?_reverse] at hc
    simpa [isCopyMark] using Text.eq_false_of_mem_head?_dropWhile c hc
  · intro c hc
    rw [List.getLast?_reverse] at hc
    exact Text.eq_false_of_takeWhile_eq_nil hnone c hc

theorem performs_dependentParts (hrest : AnchorsTo encoding.toList rest) :
    Performs (Flawed (.string encoding)) (dependentParts rest)
      [.noClosing, .noDependentIndex, .noDependentHyphen, .emptyDependent] := by
  rw [dependentParts]
  split
  · next backwards hreverse =>
      have hends : rest = backwards.reverse ++ [')'] := by
        rw [← List.reverse_reverse rest, hreverse, List.reverse_cons]
      have hclosing : Clear (Flawed (.string encoding)) .noClosing :=
        hrest.clear_noClosing ⟨_, hends.symm⟩
      dsimp only
      split
      · next hnone =>
          have hflaw := flawed_noDependentIndex hrest hends (by simpa using hnone)
          exact FirstFound.cons hclosing (.head hflaw)
      · next hdigits =>
          obtain ⟨index, -, hindex⟩ := exists_index_of_backwards (by simpa using hdigits)
          have hstop : ∀ c ∈ ((backwards.dropWhile isCopyMark).dropWhile isDigit).head?,
              isDigit c = false := Text.eq_false_of_mem_head?_dropWhile
          generalize (backwards.dropWhile isCopyMark).dropWhile isDigit = before at hindex hstop ⊢
          have hsplit : rest = before.reverse ++ (index.chars ++ [')']) := by
            rw [hends, hindex]
            simp
          have hindexed : Clear (Flawed (.string encoding)) .noDependentIndex :=
            hrest.clear_noDependentIndex hsplit
          split
          · next beforeHyphen =>
              have hhyphen : rest = beforeHyphen.reverse ++ '-' :: (index.chars ++ [')']) := by
                simpa using hsplit
              have hhyphened : Clear (Flawed (.string encoding)) .noDependentHyphen :=
                hrest.clear_noDependentHyphen hhyphen
              split
              · next hempty =>
                  have hflaw := Flawed.emptyDependent hrest hhyphen
                    (Text.ends_of_afterLast_eq_nil hempty)
                  exact FirstFound.cons hclosing (.cons hindexed (.cons hhyphened (.head hflaw)))
              · next hne =>
                  simp [Performs, hclosing, hindexed, hhyphened,
                    hrest.clear_emptyDependent hhyphen hne]
          · next hnone =>
              refine FirstFound.cons hclosing (.cons hindexed (.head ?_))
              apply Flawed.noDependentHyphen hrest hsplit
              · simpa using hstop
              · intro hlast
                rw [List.getLast?_reverse] at hlast
                obtain ⟨beforeHyphen, hcons⟩ := List.head?_eq_some_iff.mp hlast
                exact hnone beforeHyphen hcons
  · next hopen =>
      refine FirstFound.head (.noClosing hrest ?_)
      rintro ⟨front, rfl⟩
      exact hopen front.reverse (by simp)

/-- The position of a dependent is read when its parts have been found. -/
theorem scanDependent_eq_bind (rest : List Char) :
    scanDependent rest = dependentParts rest >>= fun (token, digits) =>
      position digits >>= fun position => .ok ⟨String.ofList token, position⟩ := by
  rw [scanDependent]
  cases dependentParts rest with
  | error cause => rfl
  | ok parts =>
      obtain ⟨token, digits⟩ := parts
      change _ = position digits >>= _
      cases hposition : position digits with
      | error cause => simp [hposition]; rfl
      | ok found => simp [hposition]; rfl

theorem performs_position {front : List Char} {index : WrittenIndex}
    (hrest : AnchorsTo encoding.toList rest)
    (hends : rest = front ++ '-' :: (index.chars ++ [')'])) :
    Performs (Flawed (.string encoding)) (position index.digits) [.longDependentIndex] := by
  cases hposition : position index.digits with
  | error cause =>
      obtain ⟨hlong, rfl⟩ := index.position_digits_eq_error_iff.mp hposition
      exact FirstFound.head (.longDependentIndex hrest hends hlong)
  | ok found =>
      obtain ⟨hshort, -⟩ := index.position_digits_eq_ok_iff.mp hposition
      exact List.forall_mem_singleton.mpr (hrest.clear_longDependentIndex hends hshort)

theorem performs_scanDependent (hrest : AnchorsTo encoding.toList rest) :
    Performs (Flawed (.string encoding)) (scanDependent rest)
      [.noClosing, .noDependentIndex, .noDependentHyphen, .emptyDependent,
        .longDependentIndex] := by
  rw [scanDependent_eq_bind]
  apply (performs_dependentParts hrest).bind
  rintro ⟨token, digits⟩ hparts
  obtain ⟨before, index, rfl, hends⟩ := exists_index_of_dependentParts hparts
  exact (performs_position hrest hends).bind fun _ _ => performs_ok_nil _

/-- Decoding is the three scans in a row, each on what the one before it left. -/
theorem decode_eq_bind (encoding : String) :
    decode encoding = splitRelation encoding.toList >>= fun (relation, remainder) =>
      scanGovernor remainder >>= fun (governor, rest) =>
        scanDependent rest >>= fun dependent =>
          .ok ⟨String.ofList relation, governor, dependent⟩ := by
  rw [decode]
  split
  · next cause hsplit =>
      rw [hsplit]
      rfl
  · next relation remainder hsplit =>
      rw [hsplit]
      change _ = scanGovernor remainder >>= _
      split
      · next cause hgovernor =>
          rw [hgovernor]
          rfl
      · next governor rest hgovernor =>
          rw [hgovernor]
          change _ = scanDependent rest >>= _
          split
          · next cause hdependent =>
              rw [hdependent]
              rfl
          · next dependent hdependent =>
              rw [hdependent]
              rfl

theorem performs_decode (encoding : String) :
    Performs (Flawed (.string encoding)) (decode encoding) Flaw.all.tail := by
  rw [decode_eq_bind]
  apply (performs_splitRelation encoding).bind
  rintro ⟨relation, remainder⟩ hsplit
  obtain ⟨-, hparen, hencoding⟩ := splitRelation_eq_ok_iff.mp hsplit
  have hopens : OpensTo encoding.toList remainder := ⟨relation, hparen, hencoding⟩
  apply (performs_scanGovernor hopens).bind
  rintro ⟨governor, rest⟩ hgovernor
  obtain ⟨-, hfree, index, -, -, hremainder⟩ := scanGovernor_eq_ok_iff.mp hgovernor
  have hrest : AnchorsTo encoding.toList rest :=
    ⟨remainder, _, index, hopens, leftmostAnchor_iff.mpr ⟨hfree, hremainder⟩⟩
  apply (performs_scanDependent hrest).bind
  intro dependent _
  exact performs_ok_nil _

/-- Decoding an entry looks for all flaws. -/
theorem performs_ofJson (entry : Json) : Performs (Flawed entry) (ofJson entry) Flaw.all := by
  rw [ofJson.eq_def]
  split
  · next encoding => exact (performs_decode encoding).cons (clear_notText encoding)
  · next hnone => exact FirstFound.head (.notText hnone)

end Steps

end GrammarSieve.Edge
