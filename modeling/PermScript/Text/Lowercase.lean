/-
Lower-casing of whole texts. Every character has its own lower case but
one: a capital sigma at the end of a word becomes the final form, so the
text before and after it is looked at.
-/
import PermScript.Text.CaseTable

namespace PermScript.Text

/-- The lower case of a character outside ASCII whose lower case is one
character; any other character stays. -/
def lowerRun (c : Char) : Char :=
  match caseRuns.find? fun r => r.first ≤ c.toNat && c.toNat ≤ r.last with
  | some r =>
    if (c.toNat - r.first) % r.step == 0 then Char.ofNat (c.toNat + r.shift).toNat else c
  | none => c

/-- Whether the nearest character that is not passed over has case. -/
def nextIsCased (cs : List Char) : Bool :=
  match cs.dropWhile caseIgnorable.contains with
  | c :: _ => cased.contains c
  | [] => false

/-- Lower-cases `rest`, which stands after the reversed text `before`. -/
def lowerAfter (before : List Char) : List Char → List Char
  | [] => []
  | c :: rest =>
    let lower :=
      if c.toNat < 0x80 then [c.toLower]
      else if c == 'Σ' then
        [if nextIsCased before && !nextIsCased rest then 'ς' else 'σ']
      else if c == 'İ' then ['i', '\u0307']
      else [lowerRun c]
    lower ++ lowerAfter (c :: before) rest

/-- `s` in lower case. -/
def lowercase (s : String) : String := String.ofList (lowerAfter [] s.toList)

theorem lowerAfter_of_ascii {rest : List Char} (h : ∀ c ∈ rest, c.toNat < 0x80)
    (before : List Char) : lowerAfter before rest = rest.map Char.toLower := by
  induction rest generalizing before with
  | nil => rfl
  | cons c rest ih =>
    have hc : c.toNat < 0x80 := h c List.mem_cons_self
    have hrest := ih (fun d hd => h d (List.mem_cons_of_mem _ hd)) (c :: before)
    rw [lowerAfter, if_pos hc, hrest, List.map_cons, List.singleton_append]

/-- In a text of ASCII characters the capital letters become small, and the
other characters stay. -/
theorem lowercase_of_ascii {s : String} (h : ∀ c ∈ s.toList, c.toNat < 0x80) :
    lowercase s = String.ofList (s.toList.map Char.toLower) := by
  rw [lowercase, lowerAfter_of_ascii h]

section

variable {c : Char} (hskip : caseIgnorable.contains c = false)
include hskip

/-- No search for a character with case goes past one that is not passed over. -/
theorem nextIsCased_append (cs after : List Char) :
    nextIsCased (cs ++ c :: after) = nextIsCased (cs ++ [c]) := by
  rw [nextIsCased, nextIsCased, List.dropWhile_append, List.dropWhile_append]
  cases cs.dropWhile caseIgnorable.contains <;> simp [hskip]

theorem lowerAfter_sigma (hcased : cased.contains c = true) (hne : c ≠ 'Σ')
    (before cs : List Char) :
    lowerAfter before (cs ++ [c, 'Σ']) = lowerAfter before (cs ++ [c]) ++ ['ς'] := by
  induction cs generalizing before with
  | nil =>
    have hbefore : nextIsCased (c :: before) = true := by
      rw [nextIsCased, List.dropWhile_cons_of_neg (by simp [hskip])]
      exact hcased
    have hafter : nextIsCased [] = false := rfl
    have hsigma : lowerAfter (c :: before) ['Σ'] = ['ς'] := by
      simp [lowerAfter, hbefore, hafter]
    simp only [List.nil_append, lowerAfter, beq_iff_eq, hne, if_false, List.append_nil] at hsigma ⊢
    rw [hsigma]
  | cons d cs ih =>
    rw [List.cons_append, List.cons_append, lowerAfter, lowerAfter, ih,
      nextIsCased_append hskip cs ['Σ'], List.append_assoc]

/-- After another letter at the end of a text a capital sigma has the final
form. -/
theorem lowercase_push_sigma (hcased : cased.contains c = true) (hne : c ≠ 'Σ') (s : String) :
    lowercase ((s.push c).push 'Σ') = (lowercase (s.push c)).push 'ς' := by
  have hlower := lowerAfter_sigma hskip hcased hne [] s.toList
  rw [← String.toList_inj]
  simpa [lowercase] using hlower

end

example : lowercase "ΟΔΟΣ" = "οδος" := by decide +kernel

end PermScript.Text
