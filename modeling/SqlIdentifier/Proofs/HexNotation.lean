import SqlIdentifier.Proofs.Delimiters
import SqlIdentifier.Proofs.HexDigits

namespace SqlIdentifier.Hex

/-- The digits in which numbers are written. -/
def capitals : List Char :=
  "0123456789ABCDEF".toList

/-- The value in exactly so many digits. -/
structure Writes (width value : Nat) (digits : List Char) : Prop where
  length : digits.length = width
  capital : ∀ d ∈ digits, d ∈ capitals
  value : placeValue digits = value

theorem capital_digitChar {value : Nat} (small : value < 16) :
    (Nat.digitChar value).toUpper ∈ capitals := by
  have checked : ∀ digit < 16, (Nat.digitChar digit).toUpper ∈ capitals := by decide
  exact checked value small

theorem capital_toDigits (value : Nat) :
    ∀ d ∈ (Nat.toDigits 16 value).map Char.toUpper, d ∈ capitals := by
  induction value using Nat.strongRecOn with
  | _ value ih =>
    rw [Nat.toDigits_eq_if (by decide)]
    split
    · rename_i small
      simpa using capital_digitChar small
    · rename_i large
      have last := capital_digitChar (Nat.mod_lt value (by decide : 0 < 16))
      have front := ih (value / 16) (by omega)
      rw [List.map_append, List.map_singleton]
      intro d member
      rcases List.mem_append.mp member with inFront | atEnd
      · exact front d inFront
      · rw [List.mem_singleton.mp atEnd]
        exact last

theorem capital_write (width value : Nat) : ∀ d ∈ write width value, d ∈ capitals := by
  intro d member
  rw [write, List.leftpad] at member
  rcases List.mem_append.mp member with zero | digit
  · rw [List.eq_of_mem_replicate zero]
    decide
  · exact capital_toDigits value d digit

theorem rank_capital_injective {d d' : Char} (capital : d ∈ capitals) (capital' : d' ∈ capitals)
    (same : rank d = rank d') : d = d' := by
  have checked : capitals.all (fun d => capitals[rank d]? == some d) = true := by decide
  have found (d : Char) (capital : d ∈ capitals) : capitals[rank d]? = some d :=
    beq_iff_eq.mp (List.all_eq_true.mp checked d capital)
  exact Option.some.inj ((found d capital).symm.trans (same ▸ found d' capital'))

theorem placeValue_lt {digits : List Char} (areCapitals : ∀ d ∈ digits, d ∈ capitals) :
    placeValue digits < Nat.pow 16 digits.length := by
  induction digits with
  | nil => decide
  | cons d rest ih =>
    have checked : capitals.all (fun d => rank d < 16) = true := by decide
    have first := areCapitals d List.mem_cons_self
    have small : rank d < 16 := of_decide_eq_true (List.all_eq_true.mp checked d first)
    have later := ih fun other member => areCapitals other (List.mem_cons_of_mem d member)
    have power : Nat.pow 16 (rest.length + 1) = Nat.pow 16 rest.length * 16 := rfl
    have most := Nat.mul_le_mul_right (Nat.pow 16 rest.length) (Nat.le_of_lt_succ small)
    rw [List.length_cons, power, placeValue]
    omega

/-- Digits of one width and one value are the same, place by place: those behind a place cannot make
up for a difference in it. -/
theorem Writes.unique {width value : Nat} {digits digits' : List Char}
    (writes : Writes width value digits) (writes' : Writes width value digits') :
    digits = digits' := by
  induction digits generalizing width value digits' with
  | nil =>
    have empty : digits'.length = 0 := writes'.length.trans writes.length.symm
    exact (List.length_eq_zero_iff.mp empty).symm
  | cons d rest ih =>
    obtain ⟨d', rest', rfl⟩ : ∃ d' rest', digits' = d' :: rest' := by
      refine List.exists_cons_of_length_pos ?_
      rw [writes'.length, ← writes.length]
      exact Nat.succ_pos _
    have sameLength : rest.length = rest'.length :=
      Nat.succ.inj (writes.length.trans writes'.length.symm)
    have restCapital : ∀ other ∈ rest, other ∈ capitals :=
      fun other member => writes.capital other (List.mem_cons_of_mem d member)
    have restCapital' : ∀ other ∈ rest', other ∈ capitals :=
      fun other member => writes'.capital other (List.mem_cons_of_mem d' member)
    have bound := placeValue_lt restCapital
    have bound' := placeValue_lt restCapital'
    have sum : rank d * Nat.pow 16 rest.length + placeValue rest =
        rank d' * Nat.pow 16 rest.length + placeValue rest' := by
      have values := writes.value.trans writes'.value.symm
      rwa [placeValue, placeValue, ← sameLength] at values
    rw [← sameLength] at bound'
    have sameRank : rank d = rank d' := by
      have quotients := congrArg (· / Nat.pow 16 rest.length) sum
      have positive : 0 < Nat.pow 16 rest.length := by omega
      simpa only [Nat.mul_comm (rank _), Nat.mul_add_div positive, Nat.div_eq_of_lt bound,
        Nat.div_eq_of_lt bound', Nat.add_zero] using quotients
    have sameFirst := rank_capital_injective (writes.capital d List.mem_cons_self)
      (writes'.capital d' List.mem_cons_self) sameRank
    have sameValue : placeValue rest = placeValue rest' := by
      rw [sameRank] at sum
      exact Nat.add_left_cancel sum
    rw [sameFirst, ih ⟨rfl, restCapital, rfl⟩ ⟨sameLength.symm, restCapital', sameValue.symm⟩]

theorem writes_iff {width value : Nat} {digits : List Char} (positive : 0 < width)
    (fits : value < Nat.pow 16 width) :
    Writes width value digits ↔ digits = write width value := by
  have written : Writes width value (write width value) :=
    ⟨length_write positive fits, capital_write width value, placeValue_write width value⟩
  constructor
  · intro writes
    exact writes.unique written
  · rintro rfl
    exact written

section Cases

variable {digits digits' : List Char}

theorem isDigit_toLower (c : Char) : isDigit c.toLower = isDigit c := by
  by_cases ascii : c.toNat < 128
  · exact of_ascii (P := fun c => isDigit c.toLower = isDigit c) (by decide) ascii
  · have unchanged : c.toLower = c := by
      unfold Char.toLower
      split
      · rename_i upper
        have most : c.toNat ≤ 90 := UInt32.le_iff_toNat_le.mp upper.2
        omega
      · rfl
    rw [unchanged]

theorem placeValue_of_eqIgnoringCase (agree : Text.eqIgnoringCase digits digits' = true) :
    placeValue digits = placeValue digits' := by
  have same : digits.map Char.toLower = digits'.map Char.toLower := beq_iff_eq.mp agree
  induction digits generalizing digits' with
  | nil => simp_all
  | cons c rest ih =>
    cases digits' with
    | nil => simp at same
    | cons d later =>
      simp only [List.map_cons, List.cons.injEq] at same
      have length := Text.length_of_eqIgnoringCase (beq_iff_eq.mpr same.2)
      rw [placeValue, placeValue, ih (beq_iff_eq.mpr same.2) same.2, length, rank, rank, same.1]

theorem isDigit_of_eqIgnoringCase (agree : Text.eqIgnoringCase digits digits' = true)
    (areDigits : ∀ d ∈ digits', isDigit d = true) : ∀ c ∈ digits, isDigit c = true := by
  have same : digits.map Char.toLower = digits'.map Char.toLower := beq_iff_eq.mp agree
  intro c member
  have lower := List.mem_map_of_mem (f := Char.toLower) member
  rw [same] at lower
  obtain ⟨d, member', equal⟩ := List.mem_map.mp lower
  rw [← isDigit_toLower, ← equal, isDigit_toLower]
  exact areDigits d member'

theorem read?_of_eqIgnoringCase {value : Nat} (agree : Text.eqIgnoringCase digits digits' = true)
    (read : read? digits' = some value) : read? digits = some value := by
  obtain ⟨nonempty, few, areDigits, rfl⟩ := read?_eq_some_iff.mp read
  have length := Text.length_of_eqIgnoringCase agree
  have positive := List.length_pos_iff.mpr nonempty
  refine read?_eq_some_iff.mpr ⟨?_, by omega, isDigit_of_eqIgnoringCase agree areDigits,
    (placeValue_of_eqIgnoringCase agree).symm⟩
  exact List.length_pos_iff.mp (by omega)

theorem eqIgnoringCase_map_toUpper (areDigits : ∀ c ∈ digits, isDigit c = true) :
    Text.eqIgnoringCase (digits.map Char.toUpper) digits = true := by
  rw [Text.eqIgnoringCase, List.map_map, beq_iff_eq]
  exact List.map_congr_left fun c member =>
    of_isDigit (P := fun c => c.toUpper.toLower = c.toLower) (by decide) (areDigits c member)

/-- What has been read is what is written in as many digits. -/
theorem map_toUpper_of_read? {value : Nat} (read : read? digits = some value) :
    digits.map Char.toUpper = write digits.length value := by
  obtain ⟨nonempty, few, areDigits, rfl⟩ := read?_eq_some_iff.mp read
  have capital : ∀ d ∈ digits.map Char.toUpper, d ∈ capitals := by
    intro d member
    obtain ⟨c, member', rfl⟩ := List.mem_map.mp member
    exact of_isDigit (P := fun c => c.toUpper ∈ capitals) (by decide) (areDigits c member')
  have sameValue := placeValue_of_eqIgnoringCase (eqIgnoringCase_map_toUpper areDigits)
  have length : (digits.map Char.toUpper).length = digits.length := List.length_map ..
  have fits := placeValue_lt capital
  rw [sameValue, length] at fits
  exact (writes_iff (List.length_pos_iff.mpr nonempty) fits).mp ⟨length, capital, sameValue⟩

end Cases

theorem read?_lt {digits : List Char} {value : Nat} (read : read? digits = some value) :
    value < UInt32.size := by
  rw [read?] at read
  split at read
  · simp at read
  · obtain ⟨word, _, rfl⟩ := Option.map_eq_some_iff.mp read
    exact word.toNat_lt

theorem read?_eq_none_iff {digits : List Char} :
    read? digits = none ↔ digits = [] ∨ 8 < digits.length ∨ ∃ c ∈ digits, c ∉ asciiDigits := by
  rw [Option.eq_none_iff_forall_ne_some]
  simp only [ne_eq, read?_eq_some_iff, isDigit_iff_mem]
  constructor
  · intro unreadable
    by_cases nonempty : digits = []
    · exact Or.inl nonempty
    · by_cases few : digits.length ≤ 8
      · have foreign := fun areDigits => unreadable _ ⟨nonempty, few, areDigits, rfl⟩
        simpa using Or.inr (Or.inr foreign)
      · exact Or.inr (Or.inl (by omega))
  · rintro refused value ⟨nonempty, few, areDigits, _⟩
    rcases refused with empty | many | ⟨c, member, foreign⟩
    · exact nonempty empty
    · omega
    · exact foreign (areDigits c member)

/-- From one to eight ASCII digits are read, as the number that they write in base 16, which a word of
32 bits holds; every other text is refused. What is read is what is written in as many digits, up to
case; and a number of 32 bits is read back from what is written, with zeros in front up to any width
that can be read and with any of its letters in lower case. -/
theorem read?_inverts_write :
    (∀ digits value, read? digits = some value ↔
      digits ≠ [] ∧ digits.length ≤ 8 ∧ (∀ c ∈ digits, c ∈ asciiDigits) ∧
        value = placeValue digits) ∧
    (∀ digits, read? digits = none ↔
      digits = [] ∨ 8 < digits.length ∨ ∃ c ∈ digits, c ∉ asciiDigits) ∧
    (∀ digits value, read? digits = some value →
      value < UInt32.size ∧ digits.map Char.toUpper = write digits.length value) ∧
    ∀ value < UInt32.size, ∀ width ≤ 8,
      read? (write width value) = some value ∧
      ∀ digits, Text.eqIgnoringCase digits (write width value) = true →
        read? digits = some value := by
  refine ⟨?_, fun _ => read?_eq_none_iff, fun _ _ read => ⟨read?_lt read, map_toUpper_of_read? read⟩, ?_⟩
  · intro digits value
    simp only [read?_eq_some_iff, isDigit_iff_mem]
  · intro value fits width narrow
    have read := read?_write narrow fits
    exact ⟨read, fun _ agree => read?_of_eqIgnoringCase agree read⟩

/-- The greatest number in mixed cases, which fills all eight digits without being padded; the number
ten padded to a width of three; and a digit that is not an ASCII one. -/
theorem read?_inverts_write_mixedCase :
    0xFFFFFFFF < UInt32.size ∧
      Text.eqIgnoringCase "fFFffFfF".toList (write 0 0xFFFFFFFF) = true ∧
      read? "fFFffFfF".toList = some 0xFFFFFFFF ∧
      read? "00a".toList = some 10 ∧ "00A".toList = write 3 10 ∧ read? ['1', '٣'] = none := by
  obtain ⟨_, refused, written, readBack⟩ := read?_inverts_write
  have fits : 0xFFFFFFFF < UInt32.size := by decide
  have agree : Text.eqIgnoringCase "fFFffFfF".toList (write 0 0xFFFFFFFF) = true := by decide
  have padded : read? "00a".toList = some 10 := by decide
  refine ⟨fits, agree, (readBack _ fits 0 (by decide)).2 _ agree, padded, (written _ _ padded).2, ?_⟩
  exact (refused _).mpr (Or.inr (Or.inr ⟨'٣', by decide, by decide⟩))

end SqlIdentifier.Hex
