import SqlIdentifier.CharClass.Dialects
import SqlIdentifier.Proofs.Passage

namespace SqlIdentifier.Hex

theorem digit_bounds {c : Char} (digit : isDigit c = true) :
    (0x30 ≤ c.toNat ∧ c.toNat ≤ 0x39) ∨ (0x61 ≤ c.toNat ∧ c.toNat ≤ 0x66) ∨
      (0x41 ≤ c.toNat ∧ c.toNat ≤ 0x46) := by
  unfold isDigit digitValue? at digit
  have bounds {first last : Char} (inside : first ≤ c ∧ c ≤ last) :
      first.toNat ≤ c.toNat ∧ c.toNat ≤ last.toNat :=
    ⟨UInt32.le_iff_toNat_le.mp inside.1, UInt32.le_iff_toNat_le.mp inside.2⟩
  split at digit
  · rename_i decimal
    exact Or.inl (bounds decimal)
  · split at digit
    · rename_i small
      exact Or.inr (Or.inl (bounds small))
    · split at digit
      · rename_i capital
        exact Or.inr (Or.inr (bounds capital))
      · simp at digit

/-- The ASCII hexadecimal digits of either case. -/
def asciiDigits : List Char :=
  "0123456789abcdefABCDEF".toList

/-- What can be checked for each number below 128 holds of the ASCII characters. -/
theorem of_ascii {P : Char → Prop} (checked : ∀ number < 128, P (Char.ofNat number)) {c : Char}
    (ascii : c.toNat < 128) : P c := by
  have found := checked c.toNat ascii
  rw [Char.ofNat_toNat] at found
  exact found

theorem isDigit_iff_mem {c : Char} : isDigit c = true ↔ c ∈ asciiDigits := by
  constructor
  · intro digit
    have bounds := digit_bounds digit
    have ascii : c.toNat < 128 := by omega
    exact of_ascii (P := fun c => isDigit c = true → c ∈ asciiDigits) (by decide) ascii digit
  · have checked : asciiDigits.all isDigit = true := by decide
    exact List.all_eq_true.mp checked c

/-- What can be checked for each of the digits holds of them. -/
theorem of_isDigit {P : Char → Prop} [DecidablePred P]
    (checked : asciiDigits.all (fun c => P c) = true) {c : Char} (digit : isDigit c = true) : P c :=
  of_decide_eq_true (List.all_eq_true.mp checked c (isDigit_iff_mem.mp digit))

theorem isDigit_eq_hexDigit (c : Char) : isDigit c = CharClass.hexDigit.contains c := by
  simp only [isDigit, digitValue?, CharClass.hexDigit, CharClass.contains, CharClass.anyContains]
  split
  · rename_i decimal
    simp [decimal]
  · rename_i noDecimal
    split
    · rename_i small
      simp [small]
    · rename_i noSmall
      split
      · rename_i capital
        simp [capital]
      · rename_i noCapital
        simp only [← Bool.decide_and, noDecimal, noSmall, noCapital]
        rfl

theorem forall_isDigit_iff {digits : List Char} :
    (∀ d ∈ digits, isDigit d = true) ↔ ∀ d ∈ digits, CharClass.hexDigit.contains d = true := by
  simp only [isDigit_eq_hexDigit]

theorem plus_not_hexDigit : CharClass.hexDigit.contains '+' = false := by
  rw [← isDigit_eq_hexDigit]
  decide

theorem utf8Size_of_isDigit {c : Char} (digit : isDigit c = true) : c.utf8Size = 1 :=
  of_isDigit (P := fun c => c.utf8Size = 1) (by decide) digit

/-- Digits fill one byte each, so that a window of bytes holds as many of them. -/
theorem byteSize_of_digits {digits : List Char} (areDigits : ∀ c ∈ digits, isDigit c = true) :
    Text.byteSize digits = digits.length := by
  induction digits with
  | nil => rfl
  | cons c rest ih =>
    have one := utf8Size_of_isDigit (areDigits c List.mem_cons_self)
    have later := ih fun d member => areDigits d (List.mem_cons_of_mem c member)
    rw [Text.byteSize_cons, one, later, List.length_cons]
    omega

theorem digitValue?_digitChar {value : Nat} (small : value < 16) :
    digitValue? (Nat.digitChar value).toUpper = some value := by
  have checked : ∀ digit < 16, digitValue? (Nat.digitChar digit).toUpper = some digit := by decide
  exact checked value small

/-- The value of a digit as its place among the sixteen. -/
def rank (c : Char) : Nat :=
  "0123456789abcdef".toList.idxOf c.toLower

theorem digitValue?_eq_rank {c : Char} (digit : isDigit c = true) :
    digitValue? c = some (rank c) :=
  of_isDigit (P := fun c => digitValue? c = some (rank c)) (by decide) digit

theorem digitValue?_lt {c : Char} {value : Nat} (found : digitValue? c = some value) :
    value < 16 := by
  have digit : isDigit c = true := by rw [isDigit, found]; rfl
  have sixteen : rank c < 16 := of_isDigit (P := fun c => rank c < 16) (by decide) digit
  rw [digitValue?_eq_rank digit] at found
  rw [← Option.some.inj found]
  exact sixteen

/-- As long as the four highest bits of the word are free, no bit is lost; and the bits of the digit
meet no others, so that none is carried over. -/
theorem toNat_push {word : UInt32} {digit : Nat} (room : word.toNat < 0x10000000)
    (small : digit < 16) : (push word digit).toNat = 16 * word.toNat + digit := by
  have moved : (word <<< 4).toNat = 16 * word.toNat := by
    have kept : 16 * word.toNat < 0x100000000 := by omega
    rw [UInt32.toNat_shiftLeft, Nat.shiftLeft_eq, Nat.mul_comm]
    exact Nat.mod_eq_of_lt kept
  have whole : (UInt32.ofNat digit).toNat = digit :=
    UInt32.toNat_ofNat_of_lt' (Nat.lt_trans small (by decide))
  rw [push, UInt32.toNat_or, moved, whole]
  exact (Nat.two_pow_add_eq_or_of_lt (i := 4) small word.toNat).symm

/-- The number that digits write behind another one. -/
def valueFrom (start : Nat) (digits : List Char) : Option Nat :=
  digits.foldlM (fun value c => (digitValue? c).map (16 * value + ·)) start

/-- A word holds what is written behind it while there are at most eight digits in all. -/
theorem foldlM_push_eq_valueFrom {word : UInt32} {count : Nat} {digits : List Char}
    (fits : word.toNat < Nat.pow 16 count) (few : count + digits.length ≤ 8) :
    (digits.foldlM (fun word c => (digitValue? c).map (push word)) word).map UInt32.toNat =
      valueFrom word.toNat digits := by
  induction digits generalizing word count with
  | nil => rfl
  | cons c rest ih =>
    rw [List.length_cons] at few
    simp only [valueFrom, List.foldlM_cons]
    cases found : digitValue? c with
    | none => rfl
    | some digit =>
      have small := digitValue?_lt found
      have lessDigits : Nat.pow 16 count ≤ Nat.pow 16 7 :=
        Nat.pow_le_pow_right (by decide) (by omega)
      have pushed := toNat_push (Nat.lt_of_lt_of_le fits lessDigits) small
      have power : Nat.pow 16 (count + 1) = Nat.pow 16 count * 16 := rfl
      have fits' : (push word digit).toNat < Nat.pow 16 (count + 1) := by omega
      have later := ih fits' (by omega)
      rw [pushed] at later
      exact later

theorem valueFrom_append (start : Nat) (digits more : List Char) :
    valueFrom start (digits ++ more) = (valueFrom start digits).bind (valueFrom · more) := by
  simp only [valueFrom, List.foldlM_append]
  rfl

theorem valueFrom_digitChar (start : Nat) {value : Nat} (small : value < 16) :
    valueFrom start [(Nat.digitChar value).toUpper] = some (16 * start + value) := by
  simp [valueFrom, digitValue?_digitChar small]

theorem valueFrom_toDigits (value : Nat) :
    valueFrom 0 ((Nat.toDigits 16 value).map Char.toUpper) = some value := by
  induction value using Nat.strongRecOn with
  | _ value ih =>
    rw [Nat.toDigits_eq_if (by decide)]
    split
    · rename_i small
      rw [List.map_singleton, valueFrom_digitChar 0 small, Nat.mul_zero, Nat.zero_add]
    · rename_i large
      have front := ih (value / 16) (by omega)
      have last := valueFrom_digitChar (value / 16) (Nat.mod_lt value (by decide))
      rw [List.map_append, List.map_singleton, valueFrom_append, front, Option.bind_some, last,
        Nat.div_add_mod]

theorem valueFrom_zeros (count : Nat) : valueFrom 0 (List.replicate count '0') = some 0 := by
  induction count with
  | zero => rfl
  | succ count ih =>
    have zero : valueFrom 0 ['0'] = some 0 := by decide
    rw [List.replicate_succ, ← List.singleton_append, valueFrom_append, zero, Option.bind_some, ih]

theorem valueFrom_write (width value : Nat) : valueFrom 0 (write width value) = some value := by
  rw [write, List.leftpad, valueFrom_append, valueFrom_zeros, Option.bind_some, valueFrom_toDigits]

theorem isDigit_of_valueFrom {start value : Nat} {digits : List Char}
    (read : valueFrom start digits = some value) : ∀ c ∈ digits, isDigit c = true := by
  induction digits generalizing start with
  | nil => simp
  | cons c rest ih =>
    rw [← List.singleton_append, valueFrom_append] at read
    obtain ⟨middle, first, later⟩ := Option.bind_eq_some_iff.mp read
    have digit : isDigit c = true := by
      simp only [valueFrom, List.foldlM_cons, List.foldlM_nil, Option.bind_eq_bind] at first
      obtain ⟨_, mapped, _⟩ := Option.bind_eq_some_iff.mp first
      obtain ⟨_, found, _⟩ := Option.map_eq_some_iff.mp mapped
      rw [isDigit, found]
      rfl
    intro d member
    rcases List.mem_cons.mp member with rfl | member
    · exact digit
    · exact ih later d member

theorem isDigit_of_mem_write (width value : Nat) : ∀ c ∈ write width value, isDigit c = true :=
  isDigit_of_valueFrom (valueFrom_write width value)

theorem length_write {width value : Nat} (positive : 0 < width) (fits : value < Nat.pow 16 width) :
    (write width value).length = width := by
  have short := (Nat.length_toDigits_le_iff (by decide) positive).mpr fits
  rw [write, List.leftpad, List.length_append, List.length_replicate, List.length_map]
  omega

theorem read?_eq (digits : List Char) :
    read? digits =
      if digits.isEmpty || 8 < Text.byteSize digits then none else valueFrom 0 digits := by
  rw [read?]
  split
  · rfl
  · rename_i accepted
    simp only [Bool.or_eq_true, decide_eq_true_eq, not_or] at accepted
    have few := Text.length_le_byteSize digits
    have fits : (0 : UInt32).toNat < Nat.pow 16 0 := by decide
    exact foldlM_push_eq_valueFrom fits (by omega)

theorem read?_write {width value : Nat} (narrow : width ≤ 8) (fits : value < Nat.pow 16 8) :
    read? (write width value) = some value := by
  have short := (Nat.length_toDigits_le_iff (by decide) (by decide : 0 < 8)).mpr fits
  have long := Nat.length_toDigits_pos (b := 16) (n := value)
  have size := byteSize_of_digits (isDigit_of_mem_write width value)
  have length : (write width value).length = max width (Nat.toDigits 16 value).length := by
    rw [write, List.leftpad, List.length_append, List.length_replicate, List.length_map]
    omega
  have nonempty : (write width value).isEmpty = false := by
    rw [List.isEmpty_eq_false_iff, ← List.length_pos_iff]
    omega
  have few : ¬ 8 < Text.byteSize (write width value) := by omega
  rw [read?_eq, nonempty, decide_eq_false few]
  exact valueFrom_write width value

/-- The number that digits write in base 16. Each digit counts by its place from the end. -/
def placeValue : List Char → Nat
  | [] => 0
  | c :: rest => rank c * Nat.pow 16 rest.length + placeValue rest

theorem valueFrom_eq_placeValue {digits : List Char} (start : Nat)
    (areDigits : ∀ c ∈ digits, isDigit c = true) :
    valueFrom start digits = some (start * Nat.pow 16 digits.length + placeValue digits) := by
  induction digits generalizing start with
  | nil => simp [valueFrom, placeValue]
  | cons c rest ih =>
    have first := digitValue?_eq_rank (areDigits c List.mem_cons_self)
    have later := ih (16 * start + rank c) fun d member => areDigits d (List.mem_cons_of_mem c member)
    have single : valueFrom start [c] = some (16 * start + rank c) := by
      simp [valueFrom, first]
    have shifted : 16 * start * Nat.pow 16 rest.length = start * Nat.pow 16 (rest.length + 1) := by
      show _ = start * (Nat.pow 16 rest.length * 16)
      rw [Nat.mul_comm 16 start, Nat.mul_assoc, Nat.mul_comm 16]
    rw [← List.singleton_append, valueFrom_append, single, Option.bind_some, later,
      List.singleton_append, List.length_cons, placeValue, Nat.add_mul, shifted, Nat.add_assoc]

theorem placeValue_write (width value : Nat) : placeValue (write width value) = value := by
  have read := valueFrom_write width value
  rw [valueFrom_eq_placeValue 0 (isDigit_of_mem_write width value), Nat.zero_mul,
    Nat.zero_add] at read
  exact Option.some.inj read

/-- From one to eight digits are read, as the number that they write. -/
theorem read?_eq_some_iff {digits : List Char} {value : Nat} :
    read? digits = some value ↔
      digits ≠ [] ∧ digits.length ≤ 8 ∧ (∀ c ∈ digits, isDigit c = true) ∧
        value = placeValue digits := by
  have total (areDigits : ∀ c ∈ digits, isDigit c = true) :
      valueFrom 0 digits = some (placeValue digits) := by
    rw [valueFrom_eq_placeValue 0 areDigits, Nat.zero_mul, Nat.zero_add]
  rw [read?_eq]
  split
  · rename_i refused
    simp only [reduceCtorEq, false_iff]
    intro readable
    obtain ⟨nonempty, few, areDigits, _⟩ := readable
    have size := byteSize_of_digits areDigits
    simp only [Bool.or_eq_true, List.isEmpty_iff, nonempty, decide_eq_true_eq, false_or] at refused
    omega
  · rename_i accepted
    simp only [Bool.or_eq_true, List.isEmpty_iff, decide_eq_true_eq, not_or] at accepted
    obtain ⟨nonempty, few⟩ := accepted
    constructor
    · intro read
      have areDigits := isDigit_of_valueFrom read
      have size := byteSize_of_digits areDigits
      exact ⟨nonempty, by omega, areDigits, Option.some.inj (read.symm.trans (total areDigits))⟩
    · intro readable
      obtain ⟨_, _, areDigits, rfl⟩ := readable
      exact total areDigits

theorem read?_of_hexDigits {digits : List Char} (nonempty : 0 < digits.length)
    (few : digits.length ≤ 8) (areDigits : ∀ d ∈ digits, CharClass.hexDigit.contains d = true) :
    read? digits = some (placeValue digits) :=
  read?_eq_some_iff.mpr
    ⟨List.length_pos_iff.mp nonempty, few, forall_isDigit_iff.mpr areDigits, rfl⟩

end SqlIdentifier.Hex

namespace SqlIdentifier.Cursor

theorem takeHex?_eq_some_iff {count : Nat} {cursor behind : Cursor} {digits : List Char} :
    cursor.takeHex? count = some (digits, behind) ↔
      digits.length = count ∧ (∀ c ∈ digits, Hex.isDigit c = true) ∧
        cursor.Passes digits behind := by
  unfold takeHex?
  constructor
  · intro found
    split at found
    · simp at found
    · rename_i window rest cut
      obtain ⟨parts, size⟩ := Text.splitAt?_eq_some_iff.mp cut
      split at found
      · rename_i allDigits
        obtain ⟨rfl, rfl⟩ := Prod.mk.inj (Option.some.inj found)
        have areDigits := List.all_eq_true.mp allDigits
        have length := Hex.byteSize_of_digits areDigits
        exact ⟨by omega, areDigits, parts, by rw [size]⟩
      · simp at found
  · intro found
    obtain ⟨length, areDigits, passes⟩ := found
    have size := Hex.byteSize_of_digits areDigits
    rw [← length, ← size, passes.rest, Text.splitAt?_byteSize_append]
    simp only [List.all_eq_true.mpr areDigits, if_true, Option.some.injEq, Prod.mk.injEq, true_and]
    exact Passes.unique ⟨passes.rest, rfl⟩ passes

end SqlIdentifier.Cursor
