import TaggedMarkup.Text.Basic

/-!
# Lines

A line ends in a line feed, a carriage return, or the two in that order. `splitLines` cuts a text
at its line ends; `foldLineEnds` writes every line end as one line feed.
-/

namespace TaggedMarkup

def pushFirst (c : Char) : List Text → List Text
  | [] => [[c]]
  | line :: lines => (c :: line) :: lines

/-- The lines of a text, without their ends; there is always at least one. -/
def splitLines : Text → List Text
  | [] => [[]]
  | '\r' :: '\n' :: rest => [] :: splitLines rest
  | '\n' :: rest => [] :: splitLines rest
  | '\r' :: rest => [] :: splitLines rest
  | c :: rest => pushFirst c (splitLines rest)

def foldLineEnds : Text → Text
  | [] => []
  | '\r' :: '\n' :: rest => '\n' :: foldLineEnds rest
  | '\r' :: rest => '\n' :: foldLineEnds rest
  | c :: rest => c :: foldLineEnds rest

theorem splitLines_ne_nil (text : Text) : splitLines text ≠ [] := by
  fun_induction splitLines text <;> simp_all [pushFirst]
  split <;> simp

theorem carriageReturn_not_mem_foldLineEnds (text : Text) : '\r' ∉ foldLineEnds text := by
  fun_induction foldLineEnds text with
  | case1 => simp
  | case2 rest ih => simp [ih]
  | case3 rest _ ih => simp [ih]
  | case4 c rest hpair hreturn ih =>
    simp [Ne.symm hreturn, ih]

theorem foldLineEnds_of_not_mem {text : Text} (h : '\r' ∉ text) : foldLineEnds text = text := by
  induction text with
  | nil => rfl
  | cons c rest ih =>
    have hc : c ≠ '\r' := fun e => h (e ▸ List.mem_cons_self)
    have hrest : '\r' ∉ rest := fun m => h (List.mem_cons_of_mem _ m)
    rw [foldLineEnds, ih hrest]
    · exact fun _ e _ => hc e
    · exact hc

end TaggedMarkup
