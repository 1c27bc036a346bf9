import IrMachine.Proofs.Number.Patterns

/-!
# Integers at another width

An integer that is brought to another width should be cut, or its sign continued: `VarInt.resized`
is the pattern that it should have. `Scalar.toVarInt?` goes through a signed word on the way, which
loses nothing as long as the word stands for the right number. `Scalar.Distorted` lists where it
does not, and what comes out instead: a set `i1` is read as one and not as minus one, and an integer
of more than 64 bits goes by its low word also where the new width has room for more.

`Scalar.resizes_unless_distorted` says that the list is complete. An integer still comes back from a
larger width if the word stood for it (`Scalar.Holds.there_and_back`).
-/

namespace IrMachine

namespace VarInt

open LittleEndian

/-- The pattern at another width of the number that a pattern stands for. -/
def resized (width bits pattern : Nat) : Nat := (signed width pattern % 2 ^ bits).toNat

/-- A number is one that a signed word can stand for. -/
def FitsWord (number : Int) : Prop := -2 ^ 63 ≤ number ∧ number < 2 ^ 63

theorem natCast_resized (width bits pattern : Nat) :
    (resized width bits pattern : Int) = signed width pattern % 2 ^ bits :=
  Int.toNat_of_nonneg (Int.emod_nonneg _ (by positivity))

theorem resized_lt (width bits pattern : Nat) : resized width bits pattern < 2 ^ bits := by
  have small := Int.emod_lt_of_pos (signed width pattern) (by positivity : (0 : Int) < 2 ^ bits)
  rw [← natCast_resized] at small
  exact_mod_cast small

/-- At its own width an integer stays what it is. -/
theorem resized_self {width pattern : Nat} (fits : pattern < 2 ^ width) :
    resized width width pattern = pattern := by
  have residue := signed_emod width pattern
  rw [← natCast_resized, Nat.mod_eq_of_lt fits] at residue
  exact Int.ofNat.inj residue

/-- A resized pattern stands for a number with the same low bits. -/
theorem signed_resized_emod (width bits pattern : Nat) :
    signed bits (resized width bits pattern) % 2 ^ bits = signed width pattern % 2 ^ bits := by
  rw [signed_emod, Nat.mod_eq_of_lt (resized_lt ..), natCast_resized]

/-- Numbers in the range of a width are told apart by the bits of that width. -/
theorem eq_of_emod_eq {width : Nat} (positive : 0 < width) {first second : Int}
    (range : -2 ^ (width - 1) ≤ first ∧ first < 2 ^ (width - 1))
    (range' : -2 ^ (width - 1) ≤ second ∧ second < 2 ^ (width - 1))
    (same : first % 2 ^ width = second % 2 ^ width) : first = second := by
  calc first = signed width (first % 2 ^ width).toNat :=
        ((signed_emod_eq_iff positive first).mpr range).symm
    _ = signed width (second % 2 ^ width).toNat := by rw [same]
    _ = second := (signed_emod_eq_iff positive second).mpr range'

/-- The low word of an integer stands for a number with the same low bits. -/
theorem signed_low_word_emod {width bits : Nat} (pattern : Nat) (wide : 64 ≤ width)
    (narrow : bits ≤ 64) :
    signed 64 (pattern % 2 ^ 64) % 2 ^ bits = signed width pattern % 2 ^ bits := by
  have word : signed 64 (pattern % 2 ^ 64) % 2 ^ 64 = signed width pattern % 2 ^ 64 := by
    have divides : (2 ^ 64 : Int) ∣ 2 ^ width := pow_dvd_pow 2 wide
    have cut := Int.emod_emod_of_dvd (signed width pattern) divides
    rw [signed_emod] at cut
    have low : pattern % 2 ^ width % 2 ^ 64 = pattern % 2 ^ 64 :=
      Nat.mod_mod_of_dvd _ (Nat.pow_dvd_pow 2 wide)
    rw [← cut, signed_emod, Nat.mod_mod, ← low]
    push_cast
    rfl
  have divides : (2 ^ bits : Int) ∣ 2 ^ 64 := pow_dvd_pow 2 narrow
  rw [← Int.emod_emod_of_dvd _ divides, word, Int.emod_emod_of_dvd _ divides]

/-- The low word of an integer gives the right pattern at another width exactly where that width has
no more bits than a word, or the right number is one of a word. -/
theorem resized_low_word_iff {width : Nat} (pattern bits : Nat) (wide : 64 ≤ width) :
    resized 64 bits (pattern % 2 ^ 64) = resized width bits pattern ↔
      bits ≤ 64 ∨ FitsWord (signed bits (resized width bits pattern)) := by
  have inRange : FitsWord (signed 64 (pattern % 2 ^ 64)) :=
    signed_range (by omega) (Nat.mod_lt _ (by positivity))
  by_cases narrow : bits ≤ 64
  · refine iff_of_true ?_ (.inl narrow)
    rw [resized, signed_low_word_emod pattern wide narrow]
    rfl
  · have wider : (2 ^ 63 : Int) ≤ 2 ^ (bits - 1) := pow_le_pow_right₀ (by omega) (by omega)
    have itself : signed bits (resized 64 bits (pattern % 2 ^ 64)) =
        signed 64 (pattern % 2 ^ 64) := by
      obtain ⟨above, below⟩ := inRange
      apply (signed_emod_eq_iff (by omega) _).mpr
      exact ⟨by omega, by omega⟩
    constructor
    · intro same
      rw [← same, itself]
      exact .inr inRange
    · rintro (few | fits)
      · exact absurd few narrow
      · -- Both numbers are those of a word, and they have the same low word.
        have low : signed bits (resized width bits pattern) % 2 ^ 64 =
            signed 64 (pattern % 2 ^ 64) % 2 ^ 64 := by
          have divides : (2 ^ 64 : Int) ∣ 2 ^ bits := pow_dvd_pow 2 (by omega)
          rw [signed_low_word_emod pattern wide (Nat.le_refl 64),
            ← Int.emod_emod_of_dvd _ divides, signed_resized_emod,
            Int.emod_emod_of_dvd _ divides]
        have equal := eq_of_emod_eq (show 0 < 64 by omega) fits inRange low
        rw [resized, ← equal, signed_resized_emod]
        rfl

theorem Keeps.number_eq {value : VarInt} {width number other : Nat}
    (keeps : value.Keeps width number) (keeps' : value.Keeps width other) : number = other :=
  keeps.number.symm.trans keeps'.number

end VarInt

namespace Scalar

open LittleEndian VarInt

/-- The integers that do not keep their number at a width, and the pattern that they get there. -/
inductive Distorted (bits : Nat) : Scalar → Nat → Prop where
  | flag (several : 1 < bits) : Distorted bits (.i1 true) 1
  | wide {value : VarInt} (wide : 64 < value.width) (roomy : 64 < bits) (other : value.width ≠ bits)
      (long : ¬ FitsWord (signed bits (resized value.width bits (decode value.bytes)))) :
      Distorted bits (.varInt value) (resized 64 bits (decode value.bytes % 2 ^ 64))

variable {value : Scalar} {width pattern bits : Nat}

/-- An integer of another width goes through its signed reading. -/
theorem toVarInt?_of_reading {reading : Int64} (reads : value.toInt64? = some reading)
    (other : ∀ number, value = .varInt number → number.width ≠ bits) :
    value.toVarInt? bits = some (.ofInt64 bits reading) := by
  cases value with
  | varInt number =>
      cases reads
      exact if_neg (other number rfl)
  | _ => simp [toVarInt?, reads]

/-- What an integer of more than 64 bits has at another width is decided by its low word. -/
theorem toVarInt?_of_wide {number : VarInt} (wide : 64 < number.width)
    (other : number.width ≠ bits) :
    ∃ result, (varInt number).toVarInt? bits = some result ∧
      result.Keeps bits (resized 64 bits (decode number.bytes % 2 ^ 64)) := by
  have keeps := ofInt64_keeps bits number.toInt64
  rw [toInt_toInt64_of_wide (Nat.le_of_lt wide)] at keeps
  exact ⟨_, if_neg other, keeps⟩

namespace Holds

/-- Up to 64 bits, every integer other than an `i1` is resized as it should be. -/
theorem toVarInt?_of_narrow (holds : value.Holds width pattern) (positive : 0 < width)
    (narrow : width ≤ 64) (counted : ∀ flag, value ≠ .i1 flag) (bits : Nat) :
    ∃ result, value.toVarInt? bits = some result ∧
      result.Keeps bits (resized width bits pattern) := by
  by_cases own : ∀ number, value = .varInt number → number.width ≠ bits
  · obtain ⟨reading, reads, number⟩ := holds.toInt64?_eq positive narrow counted
    refine ⟨_, toVarInt?_of_reading reads own, ?_⟩
    rw [resized, ← number]
    exact ofInt64_keeps bits reading
  · push Not at own
    obtain ⟨number, rfl, rfl⟩ := own
    cases holds with
    | varInt canonical =>
        refine ⟨number, if_pos rfl, ?_⟩
        rw [resized_self canonical.cleared]
        exact canonical.keeps

/-- At its own width every integer has its own pattern, an `i1` as well. -/
theorem toVarInt?_self (holds : value.Holds width pattern) (positive : 0 < width) :
    ∃ result, value.toVarInt? width = some result ∧ result.Keeps width pattern := by
  by_cases plain : width ≤ 64 ∧ ∀ flag, value ≠ .i1 flag
  · have resizes := holds.toVarInt?_of_narrow positive plain.1 plain.2 width
    rwa [resized_self holds.pattern_lt] at resizes
  · cases holds with
    | i1 flag => cases flag <;> exact ⟨_, rfl, ofInt64_keeps 1 _⟩
    | varInt canonical => exact ⟨_, if_pos rfl, canonical.keeps⟩
    | _ => exact absurd ⟨by decide, nofun⟩ plain

end Holds

/-- An `i1` becomes zero or one, at whichever width. -/
theorem toVarInt?_i1 (flag : Bool) (positive : 0 < bits) :
    ∃ result, (i1 flag).toVarInt? bits = some result ∧ result.Keeps bits flag.toNat := by
  have small : (1 : Int) < 2 ^ bits := one_lt_pow₀ (by omega) (by omega)
  refine ⟨_, rfl, ?_⟩
  cases flag with
  | false => simpa using ofInt64_keeps bits 0
  | true => simpa [Int.emod_eq_of_lt (by omega) small] using ofInt64_keeps bits 1

/-- Minus one has all bits set, and one has only the lowest. -/
theorem resized_one_ne (several : 1 < bits) : 1 ≠ resized 1 bits 1 := by
  intro same
  have ones : signed 1 1 = -1 := rfl
  have number := natCast_resized 1 bits 1
  have large : (2 ^ 2 : Int) ≤ 2 ^ bits := pow_le_pow_right₀ (by omega) (by omega)
  rw [← same, ones, ← Int.add_emod_right, Int.emod_eq_of_lt (by omega) (by omega)] at number
  omega

namespace Distorted

variable {got : Nat}

theorem toVarInt?_keeps (distorted : value.Distorted bits got) :
    ∃ result, value.toVarInt? bits = some result ∧ result.Keeps bits got := by
  cases distorted with
  | flag several => exact toVarInt?_i1 true (by omega)
  | wide wide _ other _ => exact toVarInt?_of_wide wide other

theorem ne_resized (distorted : value.Distorted bits got) (holds : value.Holds width pattern) :
    got ≠ resized width bits pattern := by
  cases distorted with
  | flag several =>
      cases holds
      exact resized_one_ne several
  | wide wide roomy _ long =>
      cases holds
      intro same
      obtain few | fits := (resized_low_word_iff _ bits (Nat.le_of_lt wide)).mp same
      · omega
      · exact long fits

end Distorted

namespace Holds

/-- What is not distorted gets the pattern that it should have. -/
theorem toVarInt?_keeps (holds : value.Holds width pattern) (positive : 0 < width)
    (positive' : 0 < bits) (kept : ∀ got, ¬ value.Distorted bits got) :
    ∃ result, value.toVarInt? bits = some result ∧
      result.Keeps bits (resized width bits pattern) := by
  by_cases own : width = bits
  · subst own
    have same := holds.toVarInt?_self positive
    rwa [← resized_self holds.pattern_lt] at same
  · by_cases plain : width ≤ 64 ∧ ∀ flag, value ≠ .i1 flag
    · exact holds.toVarInt?_of_narrow positive plain.1 plain.2 bits
    · cases holds with
      | i1 flag =>
          cases flag with
          | false => exact toVarInt?_i1 false positive'
          | true => exact absurd (.flag (by omega)) (kept 1)
      | @varInt number canonical =>
          have wide : 64 < number.width := by
            by_contra narrow
            exact plain ⟨by omega, nofun⟩
          have low : resized 64 bits (decode number.bytes % 2 ^ 64) =
              resized number.width bits (decode number.bytes) := by
            apply (resized_low_word_iff _ bits (Nat.le_of_lt wide)).mpr
            by_contra long
            push Not at long
            exact kept _ (.wide wide long.1 own long.2)
          rw [← low]
          exact toVarInt?_of_wide wide own
      | _ => exact absurd ⟨by decide, nofun⟩ plain

/-- A number that has room at a larger width comes back from there as it was. -/
theorem back_of_reading {reading : Int64} (holds : value.Holds width pattern)
    (reads : value.toInt64? = some reading) (larger : width < bits)
    (room : 64 ≤ bits ∨ -2 ^ (bits - 1) ≤ reading.toInt ∧ reading.toInt < 2 ^ (bits - 1)) :
    ∃ result back, value.toVarInt? bits = some result ∧
      (Scalar.varInt result).toVarInt? width = some back ∧
      back.Keeps width (reading.toInt % 2 ^ width).toNat := by
  have other : ∀ number, value = .varInt number → number.width ≠ bits := by
    rintro number rfl
    cases holds
    exact Nat.ne_of_lt larger
  have read : (Scalar.varInt (VarInt.ofInt64 bits reading)).toInt64? = some reading :=
    congrArg some ((toInt64_ofInt64_iff (by omega) reading).mpr room)
  refine ⟨_, _, toVarInt?_of_reading reads other, toVarInt?_of_reading read ?_,
    ofInt64_keeps width reading⟩
  rintro number same
  cases same
  exact Nat.ne_of_gt larger

/-- An integer comes back from a larger width exactly if it has at most 64 bits or its number is one
of a word. -/
theorem there_and_back (holds : value.Holds width pattern) (positive : 0 < width)
    (larger : width < bits) :
    ∃ result back, value.toVarInt? bits = some result ∧
      (Scalar.varInt result).toVarInt? width = some back ∧
      (back.Keeps width pattern ↔ width ≤ 64 ∨ FitsWord (signed width pattern)) := by
  by_cases plain : width ≤ 64 ∧ ∀ flag, value ≠ .i1 flag
  · obtain ⟨reading, reads, number⟩ := holds.toInt64?_eq positive plain.1 plain.2
    obtain ⟨above, below⟩ := signed_range positive holds.pattern_lt
    have wider : (2 ^ (width - 1) : Int) ≤ 2 ^ (bits - 1) :=
      pow_le_pow_right₀ (by omega) (by omega)
    obtain ⟨result, back, there, again, keeps⟩ :=
      holds.back_of_reading reads larger (.inr ⟨by omega, by omega⟩)
    refine ⟨result, back, there, again, iff_of_true ?_ (.inl plain.1)⟩
    rw [number] at keeps
    exact resized_self holds.pattern_lt ▸ keeps
  · cases holds with
    | i1 flag =>
        have wider : (2 ^ 1 : Int) ≤ 2 ^ (bits - 1) := pow_le_pow_right₀ (by omega) (by omega)
        have room : -2 ^ (bits - 1) ≤ (if flag then 1 else 0 : Int64).toInt ∧
            (if flag then 1 else 0 : Int64).toInt < 2 ^ (bits - 1) := by
          cases flag
          · exact ⟨show -2 ^ (bits - 1) ≤ 0 by omega, show 0 < 2 ^ (bits - 1) by omega⟩
          · exact ⟨show -2 ^ (bits - 1) ≤ 1 by omega, show 1 < 2 ^ (bits - 1) by omega⟩
        obtain ⟨result, back, there, again, keeps⟩ :=
          (Holds.i1 flag).back_of_reading rfl larger (.inr room)
        refine ⟨result, back, there, again, iff_of_true ?_ (.inl (by decide))⟩
        cases flag <;> exact keeps
    | @varInt number canonical =>
        have wide : 64 < number.width := by
          by_contra narrow
          exact plain ⟨by omega, nofun⟩
        obtain ⟨result, back, there, again, keeps⟩ :=
          (Holds.varInt canonical).back_of_reading rfl larger (.inl (by omega))
        rw [toInt_toInt64_of_wide (Nat.le_of_lt wide)] at keeps
        have own := resized_low_word_iff (decode number.bytes) number.width (Nat.le_of_lt wide)
        rw [resized_self canonical.cleared] at own
        refine ⟨result, back, there, again, ?_⟩
        rw [← own]
        exact ⟨fun kept => keeps.number_eq kept, fun same => same ▸ keeps⟩
    | _ => exact absurd ⟨by decide, nofun⟩ plain

end Holds

/-- Bringing an integer to another width. There is always a result. It has the pattern that it
should have, cut or with the sign continued, exactly where the integer is not distorted, and else
the one that goes with the distortion. From a larger width an integer comes back exactly if it has
at most 64 bits or its number is one of a word. An `i1` and an integer of one bit with the same bit
come to the same unless the bit is set and has to be continued. -/
theorem resizes_unless_distorted (holds : value.Holds width pattern) (positive : 0 < width)
    (positive' : 0 < bits) :
    (∃ result, value.toVarInt? bits = some result ∧
      (result.Keeps bits (resized width bits pattern) ↔ ∀ got, ¬ value.Distorted bits got) ∧
      ∀ got, value.Distorted bits got → result.Keeps bits got) ∧
    (width < bits → ∃ result back, value.toVarInt? bits = some result ∧
      (varInt result).toVarInt? width = some back ∧
      (back.Keeps width pattern ↔ width ≤ 64 ∨ FitsWord (signed width pattern))) ∧
    ∀ flag single, value = .i1 flag → (varInt single).Holds 1 flag.toNat →
      (value.toVarInt? bits = (varInt single).toVarInt? bits ↔ flag = false ∨ bits = 1) := by
  refine ⟨?_, holds.there_and_back positive, ?_⟩
  · by_cases kept : ∀ got, ¬ value.Distorted bits got
    · obtain ⟨result, resizes, keeps⟩ := holds.toVarInt?_keeps positive positive' kept
      refine ⟨result, resizes, iff_of_true keeps kept, ?_⟩
      intro got distorted
      exact absurd distorted (kept got)
    · push Not at kept
      obtain ⟨got, distorted⟩ := kept
      obtain ⟨result, resizes, keeps⟩ := distorted.toVarInt?_keeps
      refine ⟨result, resizes, iff_of_false ?_ (fun none => none got distorted), ?_⟩
      · intro right
        exact distorted.ne_resized holds (keeps.number_eq right)
      · intro got' distorted'
        obtain ⟨result', resizes', keeps'⟩ := distorted'.toVarInt?_keeps
        cases resizes.symm.trans resizes'
        exact keeps'
  · rintro flag single rfl one
    obtain ⟨result, resizes, keeps⟩ := toVarInt?_i1 flag positive'
    obtain ⟨result', resizes', keeps'⟩ :=
      one.toVarInt?_of_narrow (by decide) (by decide) nofun bits
    rw [resizes, resizes', Option.some.injEq]
    cases flag with
    | false => exact iff_of_true (keeps.unique keeps') (.inl rfl)
    | true =>
        constructor
        · rintro rfl
          by_contra several
          exact resized_one_ne (by omega) (keeps.number_eq keeps')
        · rintro (unset | rfl)
          · cases unset
          · exact keeps.unique keeps'

/-- A negative number is cut to twelve bits, and a set `i1` is one at eight bits. -/
theorem sample_resized :
    (∃ result, (i16 (-1)).toVarInt? 12 = some result ∧ result.Keeps 12 0xFFF) ∧
      ∃ result, (i1 true).toVarInt? 8 = some result ∧ result.Keeps 8 1 := by
  obtain ⟨⟨result, resizes, exactly, _⟩, _⟩ :=
    resizes_unless_distorted (.i16 (-1)) (by decide) (show 0 < 12 by decide)
  obtain ⟨⟨flag, resizes', _, distorted⟩, _⟩ :=
    resizes_unless_distorted (.i1 true) (by decide) (show 0 < 8 by decide)
  exact ⟨⟨result, resizes, exactly.mpr nofun⟩, flag, resizes', distorted 1 (.flag (by decide))⟩

def sampleWide : VarInt := .ofBytes 128 (List.replicate 8 0 ++ [1])

/-- At eight bits a set `i1` should have all bits set, as an integer of one bit has; and an integer
of 128 bits should keep the bit above its low word when it gets more room. -/
theorem flag_and_wide_number_change :
    ((i1 true).Holds 1 1 ∧ resized 1 8 1 = 0xFF ∧
      (i1 true).toVarInt? 8 = some ⟨8, [0x01]⟩ ∧ ¬ Keeps ⟨8, [0x01]⟩ 8 (resized 1 8 1) ∧
      (varInt ⟨1, [0x01]⟩).toVarInt? 8 = some ⟨8, [0xFF]⟩) ∧
    (varInt sampleWide).Holds 128 (2 ^ 64) ∧ resized 128 136 (2 ^ 64) = 2 ^ 64 ∧
      (varInt sampleWide).toVarInt? 136 = some ⟨136, List.replicate 17 0⟩ ∧
      ¬ Keeps ⟨136, List.replicate 17 0⟩ 136 (resized 128 136 (2 ^ 64)) := by
  refine ⟨⟨.i1 true, by decide, by decide, ?_, by decide⟩, ?_, by decide, by decide, ?_⟩
  · exact fun keeps => absurd keeps.number (by decide)
  · exact Holds.varInt (canonical_store ..)
  · exact fun keeps => absurd keeps.number (by decide)

end Scalar

end IrMachine
