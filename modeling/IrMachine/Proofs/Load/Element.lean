import IrMachine.Proofs.Address.Displacement
import IrMachine.Proofs.Load.Typing

/-!
# Stepping through a foreign array

An array does not know how wide its elements are: a load asks for as many bytes as its kind has, and
the array takes that for the width of all its elements. So a reference that was moved by some
displacement gives the element with the number of whole widths in it, and none where that number is
negative or too large (`ForeignObject.readElement_ok`).

What a load makes of the element is `LoadKind.Takes`. The main result is
`LoadSite.stepping_visits_elements`, for displacements that come about by any pointer arithmetic.
-/

namespace IrMachine

namespace Raw

/-- Whatever is not a value of a type is turned down as unsupported. -/
theorem accept_eq_error {objects : ObjectTable} {ty : Ty} {raw : Raw} {fault : ForeignFault}
    (refused : (raw.accept objects ty).1 = .error fault) :
    ∃ cause, fault = .unsupportedType cause := by
  cases ty with
  | void | pointer => cases refused
  | int bits =>
      have unread := map_eq_error_iff.mp (map_eq_error_iff.mp refused)
      cases raw <;> cases unread <;> exact ⟨_, rfl⟩
  | float | double | float80 =>
      have unread := map_eq_error_iff.mp refused
      cases raw <;> cases unread <;> exact ⟨_, rfl⟩
  | function | struct | array => cases raw <;> cases refused <;> exact ⟨_, rfl⟩

/-- Another object in the place of one that there is makes no difference to a conversion. -/
theorem accept_replace (objects : ObjectTable) (id : ObjectId) (object : ForeignObject) (ty : Ty)
    (raw : Raw) : (raw.accept (objects.replace id object) ty).1 = (raw.accept objects ty).1 := by
  cases ty with
  | pointer =>
      cases raw with
      | string value =>
          simp [accept, toAddress, ObjectTable.add, ObjectTable.replace]
      | _ => rfl
  | _ => rfl

end Raw

namespace ObjectTable

/-- What the machine has not met has no size. -/
theorem known_of_hasSize {objects : ObjectTable} {id : ObjectId}
    (sized : (objects.get id).hasSize = true) : id.index < objects.objects.size := by
  by_contra unknown
  simp [get, Array.getD, unknown] at sized

theorem get_replace {objects : ObjectTable} {id : ObjectId}
    (known : id.index < objects.objects.size) (object : ForeignObject) :
    (objects.replace id object).get id = object := by
  simp [get, replace, Array.getD, known]

end ObjectTable

namespace ForeignObject

variable {elements : List Raw} {offset : Int64} {size : Nat}

theorem readElement_ok {element : Raw} (wide : 0 < size) (inside : 0 ≤ offset.toInt)
    (found : elements[offset.toInt.toNat / size]? = some element) :
    readElement elements offset size = .ok element := by
  have legal : ¬ (size = 0 ∨ offset < 0) := by
    rw [Int64.lt_iff_toInt_lt]
    change ¬ (size = 0 ∨ offset.toInt < 0)
    omega
  simp only [readElement, if_neg legal, found]

theorem readElement_error
    (outside : offset.toInt < 0 ∨ elements.length ≤ offset.toInt.toNat / size) :
    ∃ cause, readElement elements offset size = .error (.unsupportedMessage cause) := by
  by_cases illegal : size = 0 ∨ offset < 0
  · exact ⟨.read, if_pos illegal⟩
  · have beyond : elements.length ≤ offset.toInt.toNat / size := by
      refine outside.resolve_left ?_
      intro negative
      exact illegal (.inr (Int64.lt_iff_toInt_lt.mpr negative))
    refine ⟨.readIndex (offset.toInt.toNat / size) elements.length, ?_⟩
    simp only [readElement, if_neg illegal, List.getElem?_eq_none beyond]

end ForeignObject

namespace LoadKind

/-- What a load makes of a raw value: its conversion to the type of the load, brought to the width
of the load if that is an integer that carries its width. A value that cannot be converted is the
only thing that can go wrong. -/
inductive Takes (objects : ObjectTable) (raw : Raw) : LoadKind → Except Fault Value → Prop where
  | plain {kind : LoadKind} {value : Value} (other : ∀ bits, kind ≠ scalar (.varInt bits))
      (converted : (raw.accept objects kind.ty).1 = .ok value) : Takes objects raw kind (.ok value)
  | integer {bits : Nat} {value : Value} {number : VarInt}
      (converted : (raw.accept objects (.int bits)).1 = .ok value)
      (resized : value.toVarInt? bits = some number) :
      Takes objects raw (scalar (.varInt bits)) (.ok (.scalar (.varInt number)))
  | refused {kind : LoadKind} {cause : ConversionCause}
      (unconverted : (raw.accept objects kind.ty).1 = .error (.unsupportedType cause)) :
      Takes objects raw kind (.error (.foreign (.unsupportedType cause)))

/-- Only loads of nothing have no width. -/
theorem byteSize_pos {kind : LoadKind} (wide : kind ≠ scalar (.varInt 0)) : 0 < kind.byteSize := by
  cases kind with
  | address | aggregate => decide
  | scalar kind =>
      cases kind with
      | float | double | float80 | function => decide
      | int width => cases width <;> decide
      | varInt bits =>
          have some : 0 < bits := Nat.pos_of_ne_zero fun none => wide (by rw [none])
          have room := Ty.le_bytesForBits bits
          change 0 < (Ty.checked (Ty.bytesForBits bits)).getD (Ty.sizeLimit - 1)
          unfold Ty.checked
          split
          · change 0 < Ty.bytesForBits bits
            omega
          · decide

variable {kind : LoadKind} {machine : Machine} {id : ObjectId} {offset : Int64}

/-- A kind of load that objects answer sends them a read of its own width. -/
theorem load_object_eq (reads : kind.readsObjects = true) (machine : Machine) (id : ObjectId)
    (offset : Int64) :
    kind.load machine (.object id offset) =
      match (machine.objects.get id).read offset kind.byteSize with
      | .error fault => (.error (.foreign fault), machine)
      | .ok raw =>
          (((raw.accept machine.objects kind.ty).1.mapError .foreign).bind kind.fromForeign,
            { machine with objects := (raw.accept machine.objects kind.ty).2 }) := by
  have ruled : kind.select .object = .ok .foreign := by
    cases kind with
    | aggregate => cases reads
    | address => rfl
    | scalar kind => exact if_pos reads
  have asked : kind.load machine (.object id offset) =
      Routine.run .foreign kind machine (.object id offset) := by
    simp only [load, Address.kind, ruled]
  simp only [asked, Routine.run, ForeignRead.execute, ForeignRead.byteSize, byteSize]
  cases (machine.objects.get id).read offset kind.ty.byteSize with
  | error fault => rfl
  | ok raw => rfl

/-- What a load makes of an answer is its conversion, and no conversion fails on the way to the
width of the load. -/
theorem takes_accept (kind : LoadKind) (objects : ObjectTable) (raw : Raw) :
    kind.Takes objects raw
      (((raw.accept objects kind.ty).1.mapError .foreign).bind kind.fromForeign) := by
  cases converted : (raw.accept objects kind.ty).1 with
  | error fault =>
      obtain ⟨cause, rfl⟩ := Raw.accept_eq_error converted
      exact .refused converted
  | ok value =>
      by_cases carries : ∃ bits, kind = scalar (.varInt bits)
      · obtain ⟨bits, rfl⟩ := carries
        have number : ((raw.toInt64 (.int bits)).map (Scalar.ofInt64 bits)).map Value.scalar =
            .ok value := by
          rw [← Raw.toInteger_eq]
          exact converted
        obtain ⟨scalar, read, rfl⟩ := map_eq_ok_iff.mp number
        obtain ⟨reading, _, rfl⟩ := map_eq_ok_iff.mp read
        have taken := Takes.integer converted (Scalar.toVarInt?_ofInt64 bits reading)
        rwa [← fromForeign_ofInt64 bits reading] at taken
      · have other := not_exists.mp carries
        have kept : kind.fromForeign value = .ok value := by
          unfold fromForeign
          split
          · exact absurd rfl (other _)
          · rfl
        have taken := Takes.plain other converted
        rwa [← kept] at taken

/-- How a load through a place in an array turns out, where the place lies a shift away from the
start of the array. -/
structure Visits (kind : LoadKind) (machine : Machine) (elements : List Raw) (shift : Int)
    (result : Except Fault Value) (after : Machine) : Prop where
  /-- The load takes the element with the number of whole widths in the shift. -/
  inside : 0 ≤ shift → ∀ element, elements[shift.toNat / kind.byteSize]? = some element →
    kind.Takes machine.objects element result ∧
      after = { machine with objects := (element.accept machine.objects kind.ty).2 }
  /-- Where there is no such element, the array does not answer. -/
  outside : shift < 0 ∨ elements.length ≤ shift.toNat / kind.byteSize →
    (∃ cause, result = .error (.foreign (.unsupportedMessage cause))) ∧ after = machine

theorem visits_of_array (reads : kind.readsObjects = true) (wide : 0 < kind.byteSize)
    {describe : ObjectId → String} {elements : List Raw}
    (held : machine.objects.get id = .array describe elements) (offset : Int64) :
    kind.Visits machine elements offset.toInt (kind.load machine (.object id offset)).1
      (kind.load machine (.object id offset)).2 := by
  have asked : (machine.objects.get id).read offset kind.byteSize =
      ForeignObject.readElement elements offset kind.byteSize := by
    rw [held]
    rfl
  rw [load_object_eq reads, asked]
  refine ⟨?_, ?_⟩
  · intro nonneg element found
    rw [ForeignObject.readElement_ok wide nonneg found]
    exact ⟨kind.takes_accept machine.objects element, rfl⟩
  · intro none
    obtain ⟨cause, refused⟩ := ForeignObject.readElement_error none
    rw [refused]
    exact ⟨⟨cause, rfl⟩, rfl⟩

/-- All that a load from an object depends on is the answer to a read of its width at the offset. -/
theorem load_replace (reads : kind.readsObjects = true) {object : ForeignObject}
    (known : id.index < machine.objects.objects.size)
    (alike : object.read offset kind.byteSize =
      (machine.objects.get id).read offset kind.byteSize) :
    (kind.load { machine with objects := machine.objects.replace id object }
      (.object id offset)).1 = (kind.load machine (.object id offset)).1 := by
  simp only [load_object_eq reads, ObjectTable.get_replace known, alike]
  cases (machine.objects.get id).read offset kind.byteSize with
  | error fault => rfl
  | ok raw => simp only [Raw.accept_replace]

end LoadKind

namespace LoadSite

/-- Stepping through an array visits its elements. For every kind of load that objects answer and
that has a width, whatever the site was used for before, and for every displacement that pointer
arithmetic leads to, which is the sum of the steps as long as no running sum leaves its range: the
load takes the element with the number of whole widths in the displacement, so that a multiple of
the width leads to the element with that number, and it fails for want of an answer where the
displacement is negative or there is no such element. Any other object that answers the one read of
that width at that place in the same way is loaded alike. -/
theorem stepping_visits_elements {kind : LoadKind} (reads : kind.readsObjects = true)
    (wide : kind ≠ .scalar (.varInt 0)) (history : List (Machine × Address)) (machine : Machine)
    {id : ObjectId} {describe : ObjectId → String} {elements : List Raw}
    (held : machine.objects.get id = .array describe elements) (steps : List Int64) :
    ∃ offset : Int64, (Address.object id 0).walk machine steps = .ok (.object id offset) ∧
      (Address.StaysWord 0 steps → offset.toInt = Address.displacement steps) ∧
      kind.Visits machine elements offset.toInt
        ((after { kind } history).execute machine (.object id offset)).1
        ((after { kind } history).execute machine (.object id offset)).2.2 ∧
      (∀ (index : Nat) element, offset.toInt = index * kind.byteSize →
        elements[index]? = some element →
        kind.Takes machine.objects element
          ((after { kind } history).execute machine (.object id offset)).1) ∧
      ∀ object : ForeignObject, object.read offset kind.byteSize =
          (ForeignObject.array describe elements).read offset kind.byteSize →
        ((after { kind } history).execute
            { machine with objects := machine.objects.replace id object } (.object id offset)).1 =
          ((after { kind } history).execute machine (.object id offset)).1 := by
  have positive := LoadKind.byteSize_pos wide
  obtain ⟨offset, walked, away⟩ := Address.walk_object machine id 0 steps
  obtain ⟨result, machines⟩ := execute_after kind history machine (.object id offset)
  have visits := LoadKind.visits_of_array reads positive held offset
  refine ⟨offset, walked, ?_, ?_, ?_, ?_⟩
  · intro sums
    simpa using away sums
  · rw [result, machines]
    exact visits
  · intro index element whole found
    have number : offset.toInt.toNat / kind.byteSize = index := by
      rw [whole, ← Int.natCast_mul, Int.toNat_natCast, Nat.mul_div_cancel _ positive]
    have nonneg : 0 ≤ offset.toInt := by
      rw [whole]
      positivity
    rw [← number] at found
    rw [result]
    exact (visits.inside nonneg element found).1
  · intro object alike
    have known : id.index < machine.objects.objects.size := by
      apply ObjectTable.known_of_hasSize
      rw [held]
      rfl
    rw [(execute_after kind history _ (.object id offset)).1, result]
    apply LoadKind.load_replace reads known
    rw [held]
    exact alike

def arrayMachine : Machine :=
  { sampleMachine with
    objects := { objects := #[.array (fun _ => "") [.pointer 0x10, .int 261, .string "x"]] } }

/-- Three bytes into the array there is the second element for an integer of 12 bits, which takes
two bytes, and 24 bytes into it there is none for an address. -/
theorem sample_visited :
    (Address.object ⟨0⟩ 0).walk arrayMachine [16, -13] = .ok (.object ⟨0⟩ 3) ∧
      (LoadKind.scalar (.varInt 12)).Takes arrayMachine.objects (.int 261)
        ((after { kind := .scalar (.varInt 12) } sampleHistory).execute arrayMachine
          (.object ⟨0⟩ 3)).1 ∧
      ((after { kind := .scalar (.varInt 12) } sampleHistory).execute arrayMachine
        (.object ⟨0⟩ 3)).1 = .ok (.scalar (.varInt ⟨12, [5, 1]⟩)) ∧
      ∃ cause, ((after { kind := .address } sampleHistory).execute arrayMachine
        (.object ⟨0⟩ 24)).1 = .error (.foreign (.unsupportedMessage cause)) := by
  have between : Address.StaysWord 0 [16, -13] := by decide
  have beyond : Address.StaysWord 0 [24] := by decide
  have integer : LoadKind.scalar (.varInt 12) ≠ .scalar (.varInt 0) := nofun
  have address : LoadKind.address ≠ .scalar (.varInt 0) := nofun
  obtain ⟨offset, walked, away, visits, _⟩ := stepping_visits_elements rfl integer sampleHistory
    arrayMachine (rfl : arrayMachine.objects.get ⟨0⟩ = _) [16, -13]
  obtain ⟨offset', _, away', misses, _⟩ := stepping_visits_elements rfl address sampleHistory
    arrayMachine (rfl : arrayMachine.objects.get ⟨0⟩ = _) [24]
  obtain rfl : offset = 3 := Int64.toInt_inj.mp (away between)
  obtain rfl : offset' = 24 := Int64.toInt_inj.mp (away' beyond)
  exact ⟨walked, (visits.inside (by decide) (.int 261) rfl).1, rfl,
    (misses.outside (.inr (by decide))).1⟩

end LoadSite

end IrMachine
