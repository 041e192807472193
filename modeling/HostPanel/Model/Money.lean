import HostPanel.Lib.Arithmetic
import HostPanel.Lib.Decimal
import HostPanel.Model.Schema

namespace HostPanel.Model

open HostPanel.Lib

def isAsciiLetter (c : Char) : Bool := ('A' ≤ c && c ≤ 'Z') || ('a' ≤ c && c ≤ 'z')

/-- The pattern `^[A-Za-z]{3}$`. -/
def isCurrencyCode (s : String) : Bool := s.toList.length == 3 && s.toList.all isAsciiLetter

def toUpperCase (s : String) : String := String.ofList (s.toList.map Char.toUpper)

def Number.text : Number → String
  | .integer n => toString n
  | .other text => text

/-- An amount in minor units. -/
structure Money where
  amount : ℤ
  currency : String

def moneyError (message : String) : Failure := .money message

def assertInteger (n : Number) (label : String) : Except Failure ℤ :=
  match n with
  | .integer k => .ok k
  | .other _ => .error (moneyError (label ++ " must be an integer minor-unit value, got " ++ Number.text n))

def money (amount : Number) (currency : String) : Except Failure Money := do
  let n ← assertInteger amount "amount"
  if isCurrencyCode currency then .ok ⟨n, toUpperCase currency⟩
  else .error (moneyError ("Invalid ISO 4217 currency code: " ++ currency))

def zero (currency : String) : Except Failure Money := money (.integer 0) currency

def assertSameCurrency (a b : Money) : Except Failure Unit :=
  if a.currency = b.currency then .ok ()
  else .error (moneyError ("Currency mismatch: " ++ a.currency ++ " vs " ++ b.currency))

def addWith (A : Arithmetic) (a b : Money) : Except Failure Money := do
  assertSameCurrency a b
  money (A.add a.amount b.amount) a.currency

def multiplyWith (A : Arithmetic) (a : Money) (quantity : Number) : Except Failure Money := do
  let q ← assertInteger quantity "quantity"
  money (A.mul a.amount q) a.currency

def add (a b : Money) : Except Failure Money := addWith .double a b

def multiply (a : Money) (quantity : Number) : Except Failure Money := multiplyWith .double a quantity

/-- What the database client stores in an `Int` column, or refuses: it cuts
off what is behind the point. -/
def toInt4 (n : Number) : Except Failure Int4 :=
  match n.trunc with
  | some k => if h : -2147483648 ≤ k ∧ k < 2147483648 then .ok ⟨k, h⟩ else .error .valueOutOfRange
  | none => .error .valueOutOfRange

theorem lt_of_isAsciiLetter {c : Char} (h : isAsciiLetter c = true) : c.toNat < 128 := by
  simp only [isAsciiLetter, Bool.or_eq_true, Bool.and_eq_true, decide_eq_true_eq, Char.le_def, UInt32.le_iff_toNat_le] at h
  have hz : 'z'.val.toNat = 122 := rfl
  have hZ : 'Z'.val.toNat = 90 := rfl
  change c.val.toNat < 128
  omega

theorem isAsciiLetter_toUpper {c : Char} (h : isAsciiLetter c = true) : isAsciiLetter c.toUpper = true := by
  have hall : ∀ n < 128, isAsciiLetter (Char.ofNat n) = true → isAsciiLetter (Char.ofNat n).toUpper = true := by
    decide
  have hc := hall c.toNat (lt_of_isAsciiLetter h)
  rw [Char.ofNat_toNat] at hc
  exact hc h

theorem toUpper_toUpper {c : Char} (h : isAsciiLetter c = true) : c.toUpper.toUpper = c.toUpper := by
  have hall : ∀ n < 128, (Char.ofNat n).toUpper.toUpper = (Char.ofNat n).toUpper := by decide
  have hc := hall c.toNat (lt_of_isAsciiLetter h)
  rwa [Char.ofNat_toNat] at hc

theorem isCurrencyCode_toUpperCase {s : String} (h : isCurrencyCode s = true) :
    isCurrencyCode (toUpperCase s) = true := by
  simp only [isCurrencyCode, toUpperCase, Bool.and_eq_true, beq_iff_eq, String.toList_ofList, List.length_map,
    List.all_map, List.all_eq_true, Function.comp_apply] at h ⊢
  exact ⟨h.1, fun c hc => isAsciiLetter_toUpper (h.2 c hc)⟩

theorem toUpperCase_toUpperCase {s : String} (h : isCurrencyCode s = true) :
    toUpperCase (toUpperCase s) = toUpperCase s := by
  simp only [isCurrencyCode, Bool.and_eq_true, List.all_eq_true] at h
  simp only [toUpperCase, String.toList_ofList, List.map_map]
  exact congrArg String.ofList (List.map_congr_left (fun c hc => toUpper_toUpper (h.2 c hc)))

theorem except_bind_ok {α β : Type} {x : Except Failure α} {k : α → Except Failure β} {b : β} :
    (x >>= k) = .ok b ↔ ∃ a, x = .ok a ∧ k a = .ok b := by
  cases x <;> simp [bind, Except.bind]

theorem money_ok_iff {n : Number} {currency : String} {m : Money} :
    money n currency = .ok m ↔
      ∃ k, n = .integer k ∧ isCurrencyCode currency = true ∧ m = ⟨k, toUpperCase currency⟩ := by
  cases n with
  | other text =>
    constructor
    · intro h
      cases h
    · rintro ⟨k, hk, _⟩
      cases hk
  | integer k =>
    by_cases hc : isCurrencyCode currency = true
    · simp [money, assertInteger, hc, bind, Except.bind, eq_comm]
    · simp [money, assertInteger, hc, bind, Except.bind]

theorem addWith_ok_iff {A : Arithmetic} {a b m : Money} :
    addWith A a b = .ok m ↔ a.currency = b.currency ∧ money (A.add a.amount b.amount) a.currency = .ok m := by
  by_cases hc : a.currency = b.currency
  · simp [addWith, assertSameCurrency, hc, bind, Except.bind]
  · simp [addWith, assertSameCurrency, hc, bind, Except.bind]

theorem multiplyWith_ok_iff {A : Arithmetic} {a m : Money} {quantity : Number} :
    multiplyWith A a quantity = .ok m ↔
      ∃ q, quantity = .integer q ∧ money (A.mul a.amount q) a.currency = .ok m := by
  cases quantity with
  | other text =>
    constructor
    · intro h
      cases h
    · rintro ⟨q, hq, _⟩
      cases hq
  | integer q => simp [multiplyWith, assertInteger, bind, Except.bind]

theorem add_ok_iff {a b m : Money} :
    add a b = .ok m ↔ a.currency = b.currency ∧ money (Number.add a.amount b.amount) a.currency = .ok m := addWith_ok_iff

theorem multiply_ok_iff {a m : Money} {quantity : Number} :
    multiply a quantity = .ok m ↔
      ∃ q, quantity = .integer q ∧ money (Number.mul a.amount q) a.currency = .ok m := multiplyWith_ok_iff

theorem toInt4_ok_iff {n : Number} {v : Int4} : toInt4 n = .ok v ↔ n.trunc = some v.val := by
  unfold toInt4
  cases n.trunc with
  | none => simp
  | some k =>
    by_cases h : -2147483648 ≤ k ∧ k < 2147483648
    · simp [h, Subtype.ext_iff]
    · simp only [dif_neg h, reduceCtorEq, Option.some.injEq, false_iff]
      rintro rfl
      exact h v.property

theorem toInt4_integer_ok_iff {k : ℤ} {v : Int4} : toInt4 (.integer k) = .ok v ↔ k = v.val := by
  rw [toInt4_ok_iff, Number.trunc_integer, Option.some.injEq]

theorem Int4.natAbs_le (v : Int4) : v.val.natAbs ≤ 2 ^ 31 := by
  have h := v.property
  omega

theorem add_int4 (a b : Int4) : Number.add a.val b.val = .integer (a.val + b.val) := by
  have ha := Int4.natAbs_le a
  have hb := Int4.natAbs_le b
  exact Number.ofExact_of_le (by omega)

theorem sub_int4 (a b : Int4) : Number.sub a.val b.val = .integer (a.val - b.val) := by
  have ha := Int4.natAbs_le a
  have hb := Int4.natAbs_le b
  exact Number.ofExact_of_le (by omega)

end HostPanel.Model
