import SearchPhrase.Proofs.Text.Trimmed
import SearchPhrase.Unicode.Ascii

/-!
# Text that is in lower case already

The lower-case form of a text is made up of settled characters, which lower case leaves as they
are.  So putting a text into lower case a second time changes nothing, and neither does it to any
part of such a text.  Lower case also keeps white space and everything else apart.
-/

namespace SearchPhrase
namespace Unicode

namespace CaseRun

/-- The image of the last code point of a run. -/
def lastImage (run : CaseRun) : Nat :=
  run.image + (run.last - run.first)

/-- Whether the images of a run lie after all of another run, or fall between its code points, of
which there is only every second one. -/
def isPassedBy (run other : CaseRun) : Bool :=
  Nat.blt other.last run.image ||
    Nat.beq other.step 2 && (Nat.beq run.step 2 || Nat.beq run.first run.last) &&
      Nat.beq ((run.image + other.first) % 2) 1

/-- Whether the images of a run keep out of an ascending list of runs, up to those that begin after
all of them. -/
def keepsOutOf (run : CaseRun) : List CaseRun → Bool
  | [] => true
  | other :: others =>
      Nat.blt run.lastImage other.first || run.isPassedBy other && run.keepsOutOf others

theorem covers_iff {run : CaseRun} {code : Nat} :
    run.covers code = true ↔
      run.first ≤ code ∧ code ≤ run.last ∧ (code - run.first) % run.step = 0 := by
  simp [covers, and_assoc]

/-- A run that is passed by another one maps nothing onto a code point of that. -/
theorem covers_map_eq_false
    {run other : CaseRun}
    {code : Nat}
    (covered : run.covers code = true)
    (passed : run.isPassedBy other = true) :
    other.covers (run.map code) = false := by
  obtain ⟨first_le, le_last, aligned⟩ := covers_iff.1 covered
  refine Bool.eq_false_iff.2 fun covers => ?_
  obtain ⟨other_first_le, le_other_last, other_aligned⟩ := covers_iff.1 covers
  rw [map] at other_first_le le_other_last other_aligned
  simp only [isPassedBy, Bool.or_eq_true, Bool.and_eq_true, Nat.blt_eq, Nat.beq_eq] at passed
  rcases passed with before | ⟨⟨otherStep, steps⟩, parity⟩
  · omega
  · rw [otherStep] at other_aligned
    rcases steps with step | single
    · rw [step] at aligned
      omega
    · omega

/-- Runs leave alone the image of a run that keeps out of them. -/
theorem mapByRuns_map
    {run : CaseRun}
    {runs : List CaseRun}
    {code : Nat}
    (covered : run.covers code = true)
    (keepsOut : run.keepsOutOf runs = true) :
    mapByRuns runs (run.map code) = run.map code := by
  induction runs with
  | nil => rfl
  | cons other others ih =>
      rw [keepsOutOf, Bool.or_eq_true, Bool.and_eq_true, Nat.blt_eq] at keepsOut
      rw [mapByRuns]
      split
      · rfl
      · next reached =>
          rcases keepsOut with before | ⟨passed, later⟩
          · have le_image : run.map code ≤ run.lastImage := by
              rw [map, lastImage]
              have := (covers_iff.1 covered).2.1
              omega
            omega
          · simp [covers_map_eq_false covered passed, ih later]

end CaseRun

/-- A code point is mapped to itself or along a run that covers it. -/
theorem mapByRuns_cases (runs : List CaseRun) (code : Nat) :
    mapByRuns runs code = code ∨
      ∃ run ∈ runs, run.covers code = true ∧ mapByRuns runs code = run.map code := by
  induction runs with
  | nil => exact .inl rfl
  | cons run runs ih =>
      rw [mapByRuns]
      split
      · exact .inl rfl
      · split
        · next covered => exact .inr ⟨run, by simp, covered, rfl⟩
        · refine ih.imp_right ?_
          rintro ⟨other, member, covered, same⟩
          exact ⟨other, List.mem_cons_of_mem _ member, covered, same⟩

set_option maxRecDepth 20000 in
/-- No image of a run is itself the code point of a capital. -/
theorem lowercaseRuns_keepOut :
    (lowercaseRuns.all fun run => run.keepsOutOf lowercaseRuns) = true := by
  decide

/-- Whether a set of code points leaves out everything from one code point to another. -/
def InversionList.avoids : InversionList → Nat → Nat → Bool
  | start :: stop :: rest, low, high =>
      (Nat.blt high start || Nat.ble stop low) && InversionList.avoids rest low high
  | _, _, _ => true

theorem InversionList.contains_eq_false_of_avoids
    {list : InversionList}
    {low high code : Nat}
    (avoids : list.avoids low high = true)
    (low_le : low ≤ code)
    (le_high : code ≤ high) :
    list.contains code = false := by
  fun_induction list.avoids low high with
  | case1 start stop rest low high ih =>
      simp only [Bool.and_eq_true, Bool.or_eq_true, Nat.blt_eq, Nat.ble_eq] at avoids
      have later := ih avoids.2 low_le le_high
      rw [InversionList.contains]
      split
      · rfl
      · split
        · omega
        · exact later
  | case2 list low high notPair =>
      unfold InversionList.contains
      split
      · exact absurd rfl (notPair _ _ _)
      · rfl

/-- Whether the images of a run are characters that lower case treats as small letters: none is
white space or the capital with two small letters, and the only one in ASCII is a small letter. -/
def CaseRun.hasSmallLetters (run : CaseRun) : Bool :=
  (Nat.ble run.lastImage 0xD7FF || Nat.ble 0xE000 run.image && Nat.ble run.lastImage 0x10FFFF) &&
    (Nat.ble 0x80 run.image || Nat.beq run.image 0x6B && Nat.beq run.first run.last) &&
    (Nat.blt run.lastImage 0x130 || Nat.blt 0x130 run.image) &&
    whiteSpace.avoids run.image run.lastImage

theorem lowercaseRuns_smallLetters :
    (lowercaseRuns.all CaseRun.hasSmallLetters) = true := by
  decide

/-! ## Settled characters -/

/-- A character that lower case leaves as it is, wherever it stands. -/
def IsSettled (c : Char) : Prop :=
  c ≠ capitalSigma ∧ lowerChar c = [c]

theorem mapByRuns_capitalSigma :
    mapByRuns lowercaseRuns capitalSigma.toNat ≠ capitalSigma.toNat := by
  decide

theorem toNat_ofNat_of_valid {code : Nat} (valid : code.isValidChar) :
    (Char.ofNat code).toNat = code := by
  have built : Char.ofNat code = Char.ofNatAux code valid := dif_pos valid
  rw [built]
  rfl

/-- A character beyond ASCII that no run moves is settled. -/
theorem isSettled_of_mapByRuns
    {c : Char}
    (beyond : 0x80 ≤ c.toNat)
    (plain : c.toNat ≠ 0x130)
    (unmoved : mapByRuns lowercaseRuns c.toNat = c.toNat) :
    IsSettled c := by
  refine ⟨?_, ?_⟩
  · rintro rfl
    exact mapByRuns_capitalSigma unmoved
  · rw [lowerChar, if_neg (by omega), if_neg plain, unmoved, Char.ofNat_toNat]

theorem CaseRun.image_le_map (run : CaseRun) (code : Nat) : run.image ≤ run.map code :=
  Nat.le_add_right _ _

theorem CaseRun.map_le_lastImage
    {run : CaseRun}
    {code : Nat}
    (covered : run.covers code = true) :
    run.map code ≤ run.lastImage := by
  obtain ⟨-, le_last, -⟩ := CaseRun.covers_iff.1 covered
  rw [CaseRun.map, CaseRun.lastImage]
  omega

/-- What a run maps a code point to is the code point of a character. -/
theorem toNat_ofNat_map
    {run : CaseRun}
    {code : Nat}
    (member : run ∈ lowercaseRuns)
    (covered : run.covers code = true) :
    (Char.ofNat (run.map code)).toNat = run.map code := by
  have small := List.all_eq_true.1 lowercaseRuns_smallLetters run member
  simp only [CaseRun.hasSmallLetters, Bool.and_eq_true, Bool.or_eq_true, Nat.ble_eq] at small
  obtain ⟨⟨⟨range, -⟩, -⟩, -⟩ := small
  have image_le := run.image_le_map code
  have le_image := CaseRun.map_le_lastImage covered
  apply toNat_ofNat_of_valid
  rw [Nat.isValidChar]
  omega

/-- What a run maps a code point to is a settled character and no white space. -/
theorem isSettled_ofNat_map
    {run : CaseRun}
    {code : Nat}
    (member : run ∈ lowercaseRuns)
    (covered : run.covers code = true) :
    IsSettled (Char.ofNat (run.map code)) ∧ isWhiteSpace (Char.ofNat (run.map code)) = false := by
  obtain ⟨first_le, le_last, -⟩ := CaseRun.covers_iff.1 covered
  have small := List.all_eq_true.1 lowercaseRuns_smallLetters run member
  simp only [CaseRun.hasSmallLetters, Bool.and_eq_true, Bool.or_eq_true, Nat.ble_eq, Nat.blt_eq,
    Nat.beq_eq] at small
  obtain ⟨⟨⟨-, ascii⟩, notDotted⟩, notSpace⟩ := small
  have image_le := run.image_le_map code
  have le_image := CaseRun.map_le_lastImage covered
  have toNat := toNat_ofNat_map member covered
  refine ⟨?_, ?_⟩
  · rcases ascii with beyond | ⟨letter, single⟩
    · have keepsOut := List.all_eq_true.1 lowercaseRuns_keepOut run member
      have unmoved := CaseRun.mapByRuns_map covered keepsOut
      refine isSettled_of_mapByRuns ?_ ?_ ?_ <;> rw [toNat]
      · omega
      · omega
      · exact unmoved
    · have same : run.map code = 0x6B := by
        rw [CaseRun.map]
        omega
      rw [same]
      exact ⟨by decide, by decide⟩
  · rw [isWhiteSpace, toNat]
    exact InversionList.contains_eq_false_of_avoids notSpace image_le le_image

theorem isSettled_toLower_ascii {c : Char} (ascii : c.toNat < 128) : IsSettled c.toLower :=
  forall_ascii (P := fun c => c.toLower ≠ capitalSigma ∧ lowerChar c.toLower = [c.toLower])
    (by decide) ascii

/-- The lower-case form of a character is made up of settled characters, which are no white space
unless the character is. -/
theorem isSettled_of_mem_lowerChar
    {c d : Char}
    (member : d ∈ lowerChar c) :
    IsSettled d ∧ (isWhiteSpace c = false → isWhiteSpace d = false) := by
  rw [lowerChar] at member
  split at member
  · next ascii =>
      rw [List.mem_singleton.1 member]
      refine ⟨isSettled_toLower_ascii ascii, ?_⟩
      rw [Text.isWhiteSpace_toLower]
      exact id
  · next beyond =>
      split at member
      · rcases List.mem_cons.1 member with rfl | member
        · exact ⟨⟨by decide, by decide⟩, fun _ => by decide⟩
        · rw [List.mem_singleton.1 member]
          exact ⟨⟨by decide, by decide⟩, fun _ => by decide⟩
      · next plain =>
          rw [List.mem_singleton.1 member]
          rcases mapByRuns_cases lowercaseRuns c.toNat with unmoved | ⟨run, known, covered, same⟩
          · rw [unmoved, Char.ofNat_toNat]
            exact ⟨isSettled_of_mapByRuns (by omega) plain unmoved, id⟩
          · rw [same]
            have image := isSettled_ofNat_map known covered
            exact ⟨image.1, fun _ => image.2⟩

theorem lowerChar_ne_nil (c : Char) : lowerChar c ≠ [] := by
  rw [lowerChar]
  split
  · simp
  · split <;> simp

theorem isSettled_sigmaBetween (before after : List Char) :
    IsSettled (sigmaBetween before after) ∧ isWhiteSpace (sigmaBetween before after) = false := by
  rw [sigmaBetween]
  split
  · exact ⟨⟨by decide, by decide⟩, by decide⟩
  · exact ⟨⟨by decide, by decide⟩, by decide⟩

/-- The first character of a text turns into settled characters, which are no white space unless it
is, and the rest of the text follows. -/
theorem lowercaseAfter_cons (before : List Char) (c : Char) (rest : List Char) :
    ∃ image ≠ [], lowercaseAfter before (c :: rest) = image ++ lowercaseAfter (c :: before) rest ∧
      ∀ d ∈ image, IsSettled d ∧ (isWhiteSpace c = false → isWhiteSpace d = false) := by
  rw [lowercaseAfter]
  refine ⟨_, ?_, rfl, ?_⟩
  · split
    · simp
    · exact lowerChar_ne_nil c
  · intro d member
    split at member
    · rw [List.mem_singleton.1 member]
      have sigma := isSettled_sigmaBetween before rest
      exact ⟨sigma.1, fun _ => sigma.2⟩
    · exact isSettled_of_mem_lowerChar member

/-- The lower-case form of a text consists of settled characters. -/
theorem isSettled_of_mem_lowercase {text : List Char} {c : Char} (member : c ∈ lowercase text) :
    IsSettled c := by
  suffices general : ∀ before, c ∈ lowercaseAfter before text → IsSettled c from general [] member
  clear member
  induction text with
  | nil => simp [lowercaseAfter]
  | cons d rest ih =>
      intro before member
      obtain ⟨image, -, whole, settled⟩ := lowercaseAfter_cons before d rest
      rw [whole, List.mem_append] at member
      rcases member with member | member
      · exact (settled c member).1
      · exact ih (d :: before) member

theorem lowercaseAfter_eq_self
    (before : List Char)
    {text : List Char}
    (settled : ∀ c ∈ text, IsSettled c) :
    lowercaseAfter before text = text := by
  induction text generalizing before with
  | nil => rfl
  | cons c rest ih =>
      obtain ⟨notSigma, lower⟩ := settled c (by simp)
      have tail := ih (c :: before) fun d member => settled d (List.mem_cons_of_mem _ member)
      rw [lowercaseAfter, if_neg notSigma, lower, tail, List.singleton_append]

/-- A text of settled characters is in lower case. -/
theorem lowercase_eq_self {text : List Char} (settled : ∀ c ∈ text, IsSettled c) :
    lowercase text = text :=
  lowercaseAfter_eq_self [] settled

@[simp] theorem lowercase_lowercase (text : List Char) :
    lowercase (lowercase text) = lowercase text :=
  lowercase_eq_self fun _ => isSettled_of_mem_lowercase

theorem lowercaseAfter_ne_nil (before : List Char) {text : List Char} (nonempty : text ≠ []) :
    lowercaseAfter before text ≠ [] := by
  cases text with
  | nil => exact absurd rfl nonempty
  | cons c rest =>
      obtain ⟨image, there, whole, -⟩ := lowercaseAfter_cons before c rest
      rw [whole]
      exact List.append_ne_nil_of_left_ne_nil there _

theorem head?_lowercaseAfter_solid
    (before : List Char)
    {text : List Char}
    (solid : ∀ c ∈ text.head?, isWhiteSpace c = false) :
    ∀ c ∈ (lowercaseAfter before text).head?, isWhiteSpace c = false := by
  cases text with
  | nil => simp [lowercaseAfter]
  | cons c rest =>
      obtain ⟨image, nonempty, whole, settled⟩ := lowercaseAfter_cons before c rest
      intro d first
      rw [whole, List.head?_append, List.head?_eq_some_head nonempty, Option.some_or] at first
      cases first
      exact (settled _ (List.head_mem nonempty)).2 (solid c rfl)

theorem getLast?_lowercaseAfter_solid
    (before : List Char)
    {text : List Char}
    (solid : ∀ c ∈ text.getLast?, isWhiteSpace c = false) :
    ∀ c ∈ (lowercaseAfter before text).getLast?, isWhiteSpace c = false := by
  induction text generalizing before with
  | nil => simp [lowercaseAfter]
  | cons c rest ih =>
      obtain ⟨image, -, whole, settled⟩ := lowercaseAfter_cons before c rest
      intro d last
      rw [whole] at last
      by_cases alone : rest = []
      · rw [alone, lowercaseAfter, List.append_nil] at last
        exact (settled d (List.mem_of_getLast? last)).2 (solid c (by simp [alone]))
      · have solidRest : ∀ e ∈ rest.getLast?, isWhiteSpace e = false := by
          intro e lastRest
          exact solid e (by rw [List.getLast?_cons_of_ne_nil alone]; exact lastRest)
        have nonempty := lowercaseAfter_ne_nil (c :: before) alone
        refine ih (c :: before) solidRest d ?_
        rw [List.getLast?_append, List.getLast?_eq_some_getLast nonempty, Option.some_or] at last
        rw [List.getLast?_eq_some_getLast nonempty]
        exact last

/-- Lower case brings no white space to the ends of a text and leaves something of it. -/
theorem isTrimmed_lowercase {text : Text} (trimmed : Text.IsTrimmed text) :
    Text.IsTrimmed (lowercase text) := by
  obtain ⟨nonempty, same⟩ := trimmed
  obtain ⟨first, last⟩ := Text.trim_eq_self_iff.1 same
  refine ⟨lowercaseAfter_ne_nil [] nonempty, Text.trim_eq_self_iff.2 ⟨?_, ?_⟩⟩
  · exact head?_lowercaseAfter_solid [] first
  · exact getLast?_lowercaseAfter_solid [] last

end Unicode
end SearchPhrase
