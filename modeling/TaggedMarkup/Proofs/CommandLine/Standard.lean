import Mathlib.Data.List.TakeWhile
import TaggedMarkup.CommandLine.Standard
import TaggedMarkup.Proofs.CommandLine.Delivery

/-!
# The standard shell

The standard shell keeps what is promised of shells.  Arguments can be spelled
in full, each option as one argument, so that an option can be left out; and
taking control sequences out of a text leaves it as it is exactly if there are
none.
-/

namespace TaggedMarkup

/-! ## Arguments in full -/

/-- An option and its value as one argument. -/
def Switch.spell (switch : Switch) (value : Text) : Text :=
  if switch.takesValue then switch.long ++ '=' :: value else switch.long

theorem Switch.long_injective {first second : Switch} (h : first.long = second.long) :
    first = second := by
  cases first <;> cases second <;> first | rfl | exact absurd h (by decide)

theorem Switch.long_spec (switch : Switch) :
    ∃ letter rest, switch.long = '-' :: '-' :: letter :: rest ∧ '=' ∉ switch.long := by
  cases switch <;> exact ⟨_, _, rfl, by decide⟩

namespace Arguments

/-- The arguments that give these options and operands. -/
def spell (arguments : Arguments) : List Text :=
  arguments.given.map (fun option => option.1.spell option.2) ++ ['-', '-'] :: arguments.operands

/-- An option that is known, with a value only if it takes one. -/
def IsKnown (switches : List Switch) (option : Switch × Text) : Prop :=
  option.1 ∈ switches ∧ (option.1.takesValue = false → option.2 = [])

section Scan

variable {switches : List Switch}

theorem find?_long {switch : Switch} (h : switch ∈ switches) :
    switches.find? (·.long = switch.long) = some switch := by
  cases hfind : switches.find? (·.long = switch.long) with
  | none => simpa using List.find?_eq_none.mp hfind switch h
  | some found =>
      have hfound := List.find?_some hfind
      rw [Switch.long_injective (of_decide_eq_true hfound)]

theorem readOptions_spell {option : Switch × Text} (h : IsKnown switches option) :
    readOptions switches (option.1.spell option.2) = .ok { given := [option] } := by
  obtain ⟨switch, value⟩ := option
  obtain ⟨hmem, hvalue⟩ := h
  obtain ⟨letter, rest, hlong, hequals⟩ := switch.long_spec
  have hname : ∀ c ∈ switch.long, (c != '=') = true := by
    intro c hc
    rw [bne_iff_ne]
    rintro rfl
    exact hequals hc
  have hlongOption : ∀ tail, readOptions switches (switch.long ++ tail) =
      readLong switches (switch.long ++ tail) := by
    intro tail
    rw [hlong]
    rfl
  dsimp only at hmem hvalue ⊢
  rw [Switch.spell]
  cases htakes : switch.takesValue with
  | true =>
      rw [if_pos rfl, hlongOption, readLong, List.takeWhile_append_of_pos hname,
        List.dropWhile_append_of_pos hname]
      simp [find?_long hmem, htakes]
  | false =>
      have hplain := hlongOption []
      rw [List.append_nil] at hplain
      rw [if_neg (by simp), hplain, readLong, List.takeWhile_eq_self_iff.mpr hname,
        List.dropWhile_eq_nil_iff.mpr hname, find?_long hmem, hvalue htakes]
      simp [htakes]

theorem scan_spelled (given : List (Switch × Text)) (operands : List Text)
    (h : ∀ option ∈ given, IsKnown switches option) :
    scan switches true (given.map (fun option => option.1.spell option.2) ++
      ['-', '-'] :: operands) = .ok ⟨given, operands⟩ := by
  induction given with
  | nil => simp [scan]
  | cons option given ih =>
      have hrest := ih fun other hmem => h other (List.mem_cons_of_mem option hmem)
      have hread := readOptions_spell (h option List.mem_cons_self)
      obtain ⟨letter, rest, hspell⟩ : ∃ letter rest,
          option.1.spell option.2 = '-' :: '-' :: letter :: rest := by
        obtain ⟨letter, rest, hlong, -⟩ := option.1.long_spec
        rw [Switch.spell, hlong]
        split <;> exact ⟨_, _, rfl⟩
      rw [hspell] at hread
      rw [List.map_cons, List.cons_append, hspell, scan, if_neg (by simp), if_pos rfl, hread]
      dsimp only
      rw [hrest]
      rfl

theorem scan_spell (arguments : Arguments)
    (h : ∀ option ∈ arguments.given, IsKnown switches option) :
    scan switches true arguments.spell = .ok arguments :=
  scan_spelled arguments.given arguments.operands h

/-! ## What is given -/

/-- The options that one argument gives are known, the one that wants a value takes one, and help is
asked for by its name alone. -/
structure Reading.Reads (switches : List Switch) (argument : Text) (reading : Reading) : Prop where
  given : ∀ option ∈ reading.given, IsKnown switches option
  wanting : ∀ option, reading.wanting = some option →
    option.1 ∈ switches ∧ option.1.takesValue = true
  help : ∀ value, (Switch.help, value) ∈ reading.given → argument = Switch.help.long

theorem readLong_reads {argument : Text} {reading : Reading}
    (h : readLong switches argument = .ok reading) : reading.Reads switches argument := by
  unfold readLong at h
  cases hfind : switches.find? (·.long = argument.takeWhile (· != '=')) with
  | none => simp [hfind] at h
  | some switch =>
      have hmem := List.mem_of_find?_eq_some hfind
      cases hvalue : argument.dropWhile (· != '=') with
      | nil =>
          cases htakes : switch.takesValue with
          | true =>
              simp only [hfind, hvalue, htakes, if_true, Except.ok.injEq] at h
              subst h
              exact ⟨by simp, by simp [hmem, htakes], by simp⟩
          | false =>
              simp only [hfind, hvalue, htakes, Bool.false_eq_true, if_false,
                Except.ok.injEq] at h
              subst h
              refine ⟨by simp [IsKnown, hmem], by simp, fun value hhelp => ?_⟩
              obtain ⟨rfl, -⟩ := Prod.mk.inj (List.mem_singleton.mp hhelp)
              have hname : Switch.help.long = argument.takeWhile (· != '=') := by
                simpa using List.find?_some hfind
              rw [hname, eq_comm, List.takeWhile_eq_self_iff]
              exact List.dropWhile_eq_nil_iff.mp hvalue
      | cons equals value =>
          cases htakes : switch.takesValue with
          | true =>
              simp only [hfind, hvalue, htakes, if_true, Except.ok.injEq] at h
              subst h
              refine ⟨by simp [IsKnown, hmem, htakes], by simp, fun value hhelp => ?_⟩
              obtain ⟨rfl, -⟩ := Prod.mk.inj (List.mem_singleton.mp hhelp)
              cases htakes
          | false => simp [hfind, hvalue, htakes] at h

theorem readLetters_reads {letters argument : Text} {reading : Reading}
    (h : readLetters switches letters = .ok reading) : reading.Reads switches argument := by
  induction letters generalizing reading with
  | nil =>
      cases h
      exact ⟨by simp, by simp, by simp⟩
  | cons c rest ih =>
      rw [readLetters] at h
      cases hfind : switches.find? (·.letter? = some c) with
      | none => simp [hfind] at h
      | some switch =>
          have hmem := List.mem_of_find?_eq_some hfind
          have hother : switch ≠ .help := by
            rintro rfl
            simpa [Switch.letter?] using List.find?_some hfind
          cases htakes : switch.takesValue with
          | true =>
              simp only [hfind, htakes, if_true] at h
              split at h
              · cases h
                exact ⟨by simp, by simp [hmem, htakes], by simp⟩
              · cases h
                exact ⟨by simp [IsKnown, hmem, htakes], by simp, by simp [Ne.symm hother]⟩
          | false =>
              simp only [hfind, htakes, Bool.false_eq_true, if_false] at h
              cases hrest : readLetters switches rest with
              | error error => simp [hrest, Except.map] at h
              | ok inner =>
                  simp only [hrest, Except.map, Except.ok.injEq] at h
                  subst h
                  obtain ⟨hgiven, hwanting, hhelp⟩ := ih hrest
                  refine ⟨List.forall_mem_cons.mpr ⟨⟨hmem, fun _ => rfl⟩, hgiven⟩, hwanting, ?_⟩
                  simpa [Ne.symm hother] using hhelp

theorem readOptions_reads {argument : Text} {reading : Reading}
    (h : readOptions switches argument = .ok reading) : reading.Reads switches argument := by
  unfold readOptions at h
  split at h
  · exact readLong_reads h
  · exact readLetters_reads h

theorem exists_of_map_eq_ok {result : Except UsageError Arguments} {change : Arguments → Arguments}
    {arguments : Arguments} (h : result.map change = .ok arguments) :
    ∃ scanned, result = .ok scanned ∧ arguments = change scanned := by
  cases result with
  | error error => cases h
  | ok scanned =>
      cases h
      exact ⟨scanned, rfl, rfl⟩

/-- What a line of arguments gives is known, and help is among it only if the line asks for it. -/
theorem scan_given {mixed : Bool} {line : List Text} {arguments : Arguments}
    (h : scan switches mixed line = .ok arguments) :
    ∀ option ∈ arguments.given, IsKnown switches option ∧
      (option.1 = .help → Switch.help.long ∈ line) := by
  fun_induction scan switches mixed line generalizing arguments with
  | case1 =>
      cases h
      simp
  | case2 =>
      cases h
      simp
  | case3 => cases h
  | case4 argument rest _ _ given hread ih =>
      obtain ⟨scanned, hscan, rfl⟩ := exists_of_map_eq_ok h
      obtain ⟨hgiven, -, hhelp⟩ := readOptions_reads hread
      refine List.forall_mem_append.mpr ⟨fun option hmem => ⟨hgiven option hmem, ?_⟩,
        fun option hmem => ⟨(ih hscan option hmem).1, fun hasks =>
          List.mem_cons_of_mem _ ((ih hscan option hmem).2 hasks)⟩⟩
      rintro hasks
      obtain ⟨switch, value⟩ := option
      obtain rfl : switch = .help := hasks
      rw [hhelp value hmem]
      exact List.mem_cons_self
  | case5 => cases h
  | case6 argument _ _ given switch name hread value rest ih =>
      obtain ⟨scanned, hscan, rfl⟩ := exists_of_map_eq_ok h
      obtain ⟨hgiven, hwanting, hhelp⟩ := readOptions_reads hread
      obtain ⟨hknown, htakes⟩ := hwanting _ rfl
      intro option hmem
      rcases List.mem_append.mp hmem with hmem | hmem
      · rcases List.mem_append.mp hmem with hmem | hmem
        · refine ⟨hgiven option hmem, fun hasks => ?_⟩
          obtain ⟨switch, value⟩ := option
          obtain rfl : switch = .help := hasks
          rw [hhelp value hmem]
          exact List.mem_cons_self
        · -- the last option took the next argument as its value
          rw [List.mem_singleton.mp hmem]
          refine ⟨⟨hknown, fun hnone => absurd htakes (by simp [hnone])⟩, fun hasks => ?_⟩
          obtain rfl : switch = .help := hasks
          cases htakes
      · obtain ⟨hlater, hasks⟩ := ih hscan option hmem
        exact ⟨hlater, fun hname => List.mem_cons_of_mem _ (List.mem_cons_of_mem _ (hasks hname))⟩
  | case7 argument rest _ _ _ ih =>
      obtain ⟨scanned, hscan, rfl⟩ := exists_of_map_eq_ok h
      intro option hmem
      obtain ⟨hknown, hasks⟩ := ih hscan option hmem
      exact ⟨hknown, fun hname => List.mem_cons_of_mem _ (hasks hname)⟩
  | case8 =>
      cases h
      simp

end Scan

end Arguments

namespace CommandLine

/-! ## Lines of `compile` -/

theorem callOf_cases (command : Call → Request) (argument : String) (operands : List Text)
    (invalid? : Text → Option InvalidArgument) :
    (∃ error, ∀ given, Line.callOf command argument ⟨given, operands⟩ invalid? = .misuse error) ∨
    ∃ operand, ∀ given,
      Line.callOf command argument ⟨given, operands⟩ invalid? = command ⟨operand, given⟩ := by
  cases operands with
  | nil => exact .inl ⟨.missingArgument argument, fun _ => rfl⟩
  | cons operand extra =>
      cases hinvalid : invalid? operand with
      | some error => exact .inl ⟨.invalid error, fun _ => by simp [Line.callOf, hinvalid]⟩
      | none =>
          cases extra with
          | nil => exact .inr ⟨operand, fun _ => by simp [Line.callOf, hinvalid]⟩
          | cons other extra =>
              exact .inl ⟨.extraArguments (other :: extra), fun _ => by
                simp [Line.callOf, hinvalid]⟩

/-- Operands are checked whatever the options are. -/
theorem request_compile_cases (environment : Environment) (operands : List Text) :
    (∃ error, ∀ given, (Line.compile ⟨given, operands⟩).request environment = .misuse error) ∨
    ∃ operand, ∀ given,
      (Line.compile ⟨given, operands⟩).request environment = .compile ⟨operand, given⟩ :=
  callOf_cases .compile "SOURCE" operands _

theorem read_eq (environment : Environment) (arguments : List Text) :
    Shell.standard.read environment (compileName :: arguments) =
      (readCommand compileSwitches .compile arguments).request environment :=
  rfl

theorem readCommand_of_ok {arguments : List Text} {scanned : Arguments}
    (hscan : Arguments.scan compileSwitches true arguments = .ok scanned)
    (hhelp : ∀ option ∈ scanned.given, option.1 ≠ .help) :
    readCommand compileSwitches .compile arguments = .compile scanned := by
  have hnone : scanned.has .help = false := by simpa [Arguments.has] using hhelp
  rw [readCommand, hscan]
  simp [hnone]

theorem standard_readsOptions : Shell.standard.ReadsOptions where
  called environment arguments hhelp := by
    rw [read_eq]
    cases hscan : Arguments.scan compileSwitches true arguments with
    | error error =>
        refine .inl ⟨error, ?_⟩
        rw [readCommand, hscan]
        rfl
    | ok scanned =>
        rw [readCommand_of_ok hscan fun option hmem hasks =>
          hhelp ((Arguments.scan_given hscan option hmem).2 hasks)]
        rcases request_compile_cases environment scanned.operands with
          ⟨error, herror⟩ | ⟨operand, hcall⟩
        · exact .inl ⟨error, herror scanned.given⟩
        · exact .inr ⟨_, hcall scanned.given⟩
  optional environment arguments call hread := by
    rw [read_eq] at hread
    cases hscan : Arguments.scan compileSwitches true arguments with
    | error error =>
        rw [readCommand, hscan] at hread
        cases hread
    | ok scanned =>
        by_cases hhelp : ∀ option ∈ scanned.given, option.1 ≠ .help
        · rw [readCommand_of_ok hscan hhelp] at hread
          rcases request_compile_cases environment scanned.operands with
            ⟨error, herror⟩ | ⟨operand, hcall⟩
          · cases (herror scanned.given).symm.trans hread
          · obtain rfl := Request.compile.inj ((hcall scanned.given).symm.trans hread)
            -- all options but the one for the output, spelled in full
            let bare : Arguments := ⟨scanned.given.filter (·.1 ≠ .output), scanned.operands⟩
            have hbare := Arguments.scan_spell bare fun option hmem =>
              (Arguments.scan_given hscan option (List.mem_filter.mp hmem).1).1
            refine ⟨bare.spell, ?_⟩
            rw [read_eq, readCommand_of_ok hbare fun option hmem =>
              hhelp option (List.mem_filter.mp hmem).1]
            exact hcall bare.given
        · have hasks : scanned.has .help = true := by simpa [Arguments.has] using hhelp
          rw [readCommand, hscan] at hread
          simp only [hasks, if_true] at hread
          cases hread

/-! ## Control sequences -/

theorem isParameter_iff {c : Char} :
    isParameter c = true ↔ c.isDigit = true ∨ c = ';' ∨ c = '?' := by
  simp [isParameter, or_assoc]

theorem le_toNat_of_isAlpha {c : Char} (h : c.isAlpha = true) : 65 ≤ c.toNat := by
  rcases Bool.or_eq_true_iff.mp h with hupper | hlower
  · exact UInt32.le_iff_toNat_le.mp (of_decide_eq_true hupper).1
  · have hfirst : 97 ≤ c.toNat :=
      UInt32.le_iff_toNat_le.mp (of_decide_eq_true (Bool.and_eq_true_iff.mp hlower).1)
    omega

theorem toNat_le_of_isDigit {c : Char} (h : c.isDigit = true) : c.toNat ≤ 57 :=
  UInt32.le_iff_toNat_le.mp (of_decide_eq_true (Bool.and_eq_true_iff.mp h).2)

theorem not_isParameter_of_isAlpha {c : Char} (h : c.isAlpha = true) : ¬ isParameter c = true := by
  rw [isParameter_iff]
  rintro (hdigit | rfl | rfl)
  · have hletter := le_toNat_of_isAlpha h
    have hlast := toNat_le_of_isDigit hdigit
    omega
  · exact absurd h (by decide)
  · exact absurd h (by decide)

/-- A length is found exactly where a control sequence stands at the front. -/
theorem sequenceLength?_isSome_iff {text : Text} :
    (sequenceLength? text).isSome = true ↔ ∃ sequence, IsSequence sequence ∧ sequence <+: text := by
  constructor
  · intro h
    unfold sequenceLength? at h
    split at h
    · rename_i c rest
      split at h
      · rename_i hfound
        obtain ⟨rfl, hletter⟩ := hfound
        cases hrest : rest.dropWhile isParameter with
        | nil => simp [hrest] at hletter
        | cons letter tail =>
            rw [hrest, List.head?_cons, Option.any_some] at hletter
            refine ⟨_, ⟨rest.takeWhile isParameter, letter, rfl, fun c hc =>
              isParameter_iff.mp (List.mem_takeWhile_imp hc), hletter⟩, tail, ?_⟩
            have hsplit := List.takeWhile_append_dropWhile (p := isParameter) (l := rest)
            rw [hrest] at hsplit
            simp [hsplit, escapeChar]
      · cases h
    · cases h
  · rintro ⟨_, ⟨parameters, letter, rfl, hparameters, hletter⟩, tail, rfl⟩
    have hdrop : (parameters ++ letter :: tail).dropWhile isParameter = letter :: tail := by
      rw [List.dropWhile_append_of_pos fun c hc => isParameter_iff.mpr (hparameters c hc),
        List.dropWhile_cons_of_neg (not_isParameter_of_isAlpha hletter)]
    have htext : '\x1b' :: '[' :: (parameters ++ [letter]) ++ tail =
        '\x1b' :: '[' :: (parameters ++ letter :: tail) := by simp
    rw [htext, sequenceLength?, hdrop]
    simp [escapeChar, hletter]

theorem holdsSequence_cons_iff {c : Char} {text : Text} :
    HoldsSequence (c :: text) ↔
      (sequenceLength? (c :: text)).isSome = true ∨ HoldsSequence text := by
  rw [sequenceLength?_isSome_iff]
  simp only [HoldsSequence, List.infix_cons_iff, ← exists_or, ← and_or_left]

theorem length_stripFrom_le (skipped : Nat) (text : Text) :
    (stripFrom skipped text).length ≤ text.length := by
  fun_induction stripFrom skipped text <;> simp <;> omega

/-- Where a sequence is taken out, the text gets shorter. -/
theorem length_stripSequences_lt {text : Text} (h : HoldsSequence text) :
    (stripSequences text).length < text.length := by
  rw [stripSequences]
  induction text with
  | nil =>
      obtain ⟨_, ⟨parameters, letter, rfl, -⟩, hinfix⟩ := h
      cases List.infix_nil.mp hinfix
  | cons c text ih =>
      rw [stripFrom]
      cases hlength : sequenceLength? (c :: text) with
      | some length => exact Nat.lt_succ_of_le (length_stripFrom_le _ text)
      | none =>
          rw [holdsSequence_cons_iff, hlength] at h
          exact Nat.succ_lt_succ (ih (h.resolve_left (by simp)))

theorem stripSequences_of_none {text : Text} (h : ¬ HoldsSequence text) :
    stripSequences text = text := by
  rw [stripSequences]
  induction text with
  | nil => rfl
  | cons c text ih =>
      rw [holdsSequence_cons_iff, not_or, Bool.not_eq_true, Option.isSome_eq_false_iff,
        Option.isNone_iff_eq_none] at h
      rw [stripFrom, h.1]
      exact congrArg (c :: ·) (ih h.2)

theorem standard_piped : Shell.standard.Piped where
  prints _ _ hnone := congrArg Except.ok (stripSequences_of_none hnone)
  strips text hholds hprints := by
    have hshorter := length_stripSequences_lt hholds
    rw [Except.ok.inj hprints] at hshorter
    exact Nat.lt_irrefl _ hshorter
  refuses text hlost := absurd (Platform.encodable_plain Grammar.parse text) hlost

end CommandLine

end TaggedMarkup
