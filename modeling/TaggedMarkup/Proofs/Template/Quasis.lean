import TaggedMarkup.Template.Buffer

/-!
# The quasis of a segment list

A buffer cuts what is written to it at the holes.  `textsOf` and `holesOf` say
where, without a buffer: the texts between the holes, each joined but not yet
escaped, and the holes themselves.  A template built from segments has exactly
the escaped texts as its quasis, and `unescape` takes the escaping off again.
-/

namespace TaggedMarkup

/-! ## Cutting segments at their holes -/

/-- The joined texts before, between and after the holes; `pending` was written before. -/
def textsOf (pending : Text) : List Segment → List Text
  | [] => [pending]
  | .text text :: segments => textsOf (pending ++ text) segments
  | .hole _ :: segments => pending :: textsOf [] segments

def holesOf : List Segment → List Hole
  | [] => []
  | .text _ :: segments => holesOf segments
  | .hole hole :: segments => hole :: holesOf segments

theorem length_textsOf (pending : Text) (segments : List Segment) :
    (textsOf pending segments).length = (holesOf segments).length + 1 := by
  induction segments generalizing pending with
  | nil => rfl
  | cons segment segments ih =>
      cases segment with
      | text text => exact ih (pending ++ text)
      | hole hole => simp [textsOf, holesOf, ih []]

theorem mem_holesOf {hole : Hole} {segments : List Segment} :
    hole ∈ holesOf segments ↔ Segment.hole hole ∈ segments := by
  induction segments with
  | nil => simp [holesOf]
  | cons segment segments ih =>
      cases segment <;> simp [holesOf, ih]

/-- What was written before is cut at its holes, whatever is written next. -/
theorem exists_textsOf_append (pending : Text) (segments : List Segment) :
    ∃ finished last, ∀ following,
      textsOf pending (segments ++ following) = finished ++ textsOf last following := by
  induction segments generalizing pending with
  | nil => exact ⟨[], pending, fun _ => rfl⟩
  | cons segment segments ih =>
      cases segment with
      | text text => exact ih (pending ++ text)
      | hole hole =>
          obtain ⟨finished, last, hcut⟩ := ih []
          refine ⟨pending :: finished, last, fun following => ?_⟩
          rw [List.cons_append, textsOf, hcut, List.cons_append]

theorem holesOf_append (first second : List Segment) :
    holesOf (first ++ second) = holesOf first ++ holesOf second := by
  induction first with
  | nil => rfl
  | cons segment first ih => cases segment <;> simp [holesOf, ih]

theorem exists_textsOf (segments : List Segment) :
    ∃ first others, ∀ pending, textsOf pending segments = (pending ++ first) :: others := by
  induction segments with
  | nil => exact ⟨[], [], fun pending => by simp [textsOf]⟩
  | cons segment segments ih =>
      obtain ⟨first, others, htexts⟩ := ih
      cases segment with
      | text text => exact ⟨text ++ first, others, fun pending => by simp [textsOf, htexts]⟩
      | hole hole => exact ⟨[], textsOf [] segments, fun pending => by simp [textsOf]⟩

theorem Buffer.build_writeAll (tag : Text) (segments : List Segment)
    (buffer : Buffer) :
    ((buffer.writeAll segments).build tag).1 =
      ⟨tag, buffer.quasis ++ (textsOf buffer.pending segments).map escape,
        buffer.holes ++ holesOf segments⟩ := by
  induction segments generalizing buffer with
  | nil => simp [Buffer.build, textsOf, holesOf]
  | cons segment segments ih =>
      have hstep : buffer.writeAll (segment :: segments) =
          (buffer.write segment).writeAll segments := rfl
      rw [hstep, ih]
      cases segment with
      | text text => rfl
      | hole hole => simp [Buffer.write, Buffer.hole, textsOf, holesOf]

theorem Template.ofSegments_eq (tag : Text) (segments : List Segment) :
    Template.ofSegments tag segments =
      ⟨tag, (textsOf [] segments).map escape, holesOf segments⟩ := by
  rw [Template.ofSegments, Buffer.build_writeAll]
  rfl

/-! ## Taking the escaping off -/

/-- A backslash stands for the character after it. -/
def unescape : Text → Text
  | '\\' :: c :: rest => c :: unescape rest
  | c :: rest => c :: unescape rest
  | [] => []

@[simp] theorem unescape_escape (text : Text) : unescape (escape text) = text := by
  fun_induction escape text with
  | case1 => rfl
  | case2 rest ih => simp [unescape, ih]
  | case3 rest ih => simp [unescape, ih]
  | case4 rest ih => simp [unescape, ih]
  | case5 c rest hbackslash hbacktick hopening ih =>
      rw [unescape, ih]
      intro next after h
      simp_all

end TaggedMarkup
