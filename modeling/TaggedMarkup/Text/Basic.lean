/-!
# Text

Program text is handled as the list of its characters. The functions here cut it at its ends.
-/

namespace TaggedMarkup

abbrev Text := List Char

/-- What is left of a text once a run of `p` characters is taken off its end. -/
def stripEnd (p : Char → Bool) (text : Text) : Text :=
  (text.reverse.dropWhile p).reverse

def runAtEnd (p : Char → Bool) (text : Text) : Text :=
  (text.reverse.takeWhile p).reverse

theorem stripEnd_append_runAtEnd (p : Char → Bool) (text : Text) :
    stripEnd p text ++ runAtEnd p text = text := by
  rw [stripEnd, runAtEnd, ← List.reverse_append, List.takeWhile_append_dropWhile,
    List.reverse_reverse]

theorem runAtEnd_of_stop (p : Char → Bool) (stem : Text) (c : Char) {run : Text}
    (hc : p c = false) (hrun : ∀ x ∈ run, p x = true) :
    stripEnd p (stem ++ c :: run) = stem ++ [c] ∧ runAtEnd p (stem ++ c :: run) = run := by
  have hreverse : (stem ++ c :: run).reverse = run.reverse ++ c :: stem.reverse := by simp
  have hall : ∀ x ∈ run.reverse, p x = true := by simpa using hrun
  rw [stripEnd, runAtEnd, hreverse, List.dropWhile_append_of_pos hall,
    List.takeWhile_append_of_pos hall, List.dropWhile_cons_of_neg (by simp [hc]),
    List.takeWhile_cons_of_neg (by simp [hc])]
  simp

theorem stripEnd_eq_concat {p : Char → Bool} {text : Text} (h : stripEnd p text ≠ []) :
    ∃ stem c, stripEnd p text = stem ++ [c] ∧ p c = false := by
  rw [stripEnd] at h ⊢
  cases hrest : text.reverse.dropWhile p with
  | nil => simp [hrest] at h
  | cons c rest =>
      refine ⟨rest.reverse, c, by simp, ?_⟩
      have hhead := List.head?_dropWhile_not p text.reverse
      simpa [hrest] using hhead

theorem stripEnd_eq_nil_iff {p : Char → Bool} {text : Text} :
    stripEnd p text = [] ↔ ∀ c ∈ text, p c = true := by
  have hwhole := stripEnd_append_runAtEnd p text
  constructor
  · intro hnone c hmem
    rw [hnone, List.nil_append] at hwhole
    rw [← hwhole, runAtEnd, List.mem_reverse] at hmem
    exact List.all_eq_true.mp List.all_takeWhile c hmem
  · intro hall
    refine Decidable.byContradiction fun hsome => ?_
    obtain ⟨stem, c, hconcat, hc⟩ := stripEnd_eq_concat hsome
    have hmem : c ∈ text := by
      rw [← hwhole, hconcat]
      simp
    rw [hall c hmem] at hc
    cases hc

def joinWith (separator : Text) : List Text → Text
  | [] => []
  | [piece] => piece
  | piece :: pieces => piece ++ separator ++ joinWith separator pieces

def textLe : Text → Text → Bool
  | [], _ => true
  | _ :: _, [] => false
  | c :: first, d :: second => c.toNat < d.toNat || (c == d && textLe first second)

/-- What follows `start` in a text that begins with it. -/
def afterStart? : Text → Text → Option Text
  | [], text => some text
  | c :: start, d :: text => if c = d then afterStart? start text else none
  | _ :: _, [] => none

@[simp] theorem afterStart?_append (start rest : Text) :
    afterStart? start (start ++ rest) = some rest := by
  induction start with
  | nil => rfl
  | cons c start ih => simp [afterStart?, ih]

end TaggedMarkup
