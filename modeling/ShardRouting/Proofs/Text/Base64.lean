import Mathlib.Logic.Function.Basic
import ShardRouting.Base64

namespace ShardRouting.Base64

def value (c : Char) : Nat :=
  if 'A' ≤ c ∧ c ≤ 'Z' then c.toNat - 'A'.toNat
  else if 'a' ≤ c ∧ c ≤ 'z' then c.toNat - 'a'.toNat + 26
  else if '0' ≤ c ∧ c ≤ '9' then c.toNat - '0'.toNat + 52
  else if c = '+' then 62
  else if c = '/' then 63
  else 64

def block (a b c d : Nat) : List UInt8 :=
  let n := a * 262144 + b * 4096 + c * 64 + d
  [.ofNat (n / 65536), .ofNat (n / 256), .ofNat n]

def decode : List Char → List UInt8
  | p :: q :: r :: s :: rest =>
    if r = '=' then (block (value p) (value q) 0 0).take 1
    else if s = '=' then (block (value p) (value q) (value r) 0).take 2
    else block (value p) (value q) (value r) (value s) ++ decode rest
  | _ => []

theorem value_digit : ∀ n < 64, value (digit n) = n := by decide

theorem digit_ne_padding {n : Nat} (h : n < 64) : digit n ≠ '=' := by
  intro hpadding
  have hvalue := value_digit n h
  rw [hpadding] at hvalue
  have hnone : value '=' = 64 := by decide
  omega

theorem ofNat_eq {n : Nat} {x : UInt8} (h : n % 256 = x.toNat) : UInt8.ofNat n = x := by
  rw [← UInt8.toNat_inj, UInt8.toNat_ofNat']
  exact h

theorem block_digits (x y z : UInt8) {n : Nat}
    (hn : n = x.toNat * 65536 + y.toNat * 256 + z.toNat) :
    block (n / 262144) (n / 4096 % 64) (n / 64 % 64) (n % 64) = [x, y, z] := by
  have hx := x.toNat_lt
  have hy := y.toNat_lt
  have hz := z.toNat_lt
  have hjoined : n / 262144 * 262144 + n / 4096 % 64 * 4096 + n / 64 % 64 * 64 + n % 64 = n := by
    omega
  have hfirst : UInt8.ofNat (n / 65536) = x := ofNat_eq (by omega)
  have hsecond : UInt8.ofNat (n / 256) = y := ofNat_eq (by omega)
  have hthird : UInt8.ofNat n = z := ofNat_eq (by omega)
  rw [block, hjoined, hfirst, hsecond, hthird]

section Groups

variable {a b c d : Nat}

theorem decode_one (ha : a < 64) (hb : b < 64) :
    decode [digit a, digit b, '=', '='] = (block a b 0 0).take 1 := by
  rw [decode, if_pos rfl, value_digit a ha, value_digit b hb]

theorem decode_two (ha : a < 64) (hb : b < 64) (hc : c < 64) :
    decode [digit a, digit b, digit c, '='] = (block a b c 0).take 2 := by
  rw [decode, if_neg (digit_ne_padding hc), if_pos rfl, value_digit a ha, value_digit b hb,
    value_digit c hc]

theorem decode_three (ha : a < 64) (hb : b < 64) (hc : c < 64) (hd : d < 64) (rest : List Char) :
    decode (digit a :: digit b :: digit c :: digit d :: rest) = block a b c d ++ decode rest := by
  rw [decode, if_neg (digit_ne_padding hc), if_neg (digit_ne_padding hd), value_digit a ha,
    value_digit b hb, value_digit c hc, value_digit d hd]

end Groups

theorem decode_encode (bytes : List UInt8) : decode (encode bytes) = bytes := by
  induction bytes using encode.induct with
  | case1 => rfl
  | case2 x =>
    have hx := x.toNat_lt
    rw [encode]
    generalize hn : x.toNat * 65536 = n
    have hblock := block_digits x 0 0 (n := n) (by simp [hn])
    have hpadded : n / 64 % 64 = 0 ∧ n % 64 = 0 := by omega
    rw [hpadded.1, hpadded.2] at hblock
    exact (decode_one (by omega) (by omega)).trans (congrArg (List.take 1) hblock)
  | case3 x y =>
    have hx := x.toNat_lt
    have hy := y.toNat_lt
    rw [encode]
    generalize hn : x.toNat * 65536 + y.toNat * 256 = n
    have hblock := block_digits x y 0 (n := n) (by simp [hn])
    have hpadded : n % 64 = 0 := by omega
    rw [hpadded] at hblock
    exact (decode_two (by omega) (by omega) (by omega)).trans (congrArg (List.take 2) hblock)
  | case4 x y z rest ih =>
    have hx := x.toNat_lt
    have hy := y.toNat_lt
    have hz := z.toNat_lt
    rw [encode]
    generalize hn : x.toNat * 65536 + y.toNat * 256 + z.toNat = n
    refine (decode_three (by omega) (by omega) (by omega) (by omega) (encode rest)).trans ?_
    rw [block_digits x y z hn.symm, ih]
    rfl

example : encode [0xfb, 0xff] = ['+', '/', '8', '='] := by decide

theorem encode_injective : Function.Injective encode :=
  Function.LeftInverse.injective decode_encode

theorem mem_digits {n k : Nat} {c : Char} (hn : n < 16777216) (h : c ∈ digits n k) :
    ∃ m < 64, c = digit m := by
  have hc := List.mem_of_mem_take h
  simp only [List.mem_cons, List.not_mem_nil, or_false] at hc
  rcases hc with rfl | rfl | rfl | rfl
  all_goals exact ⟨_, by omega, rfl⟩

theorem mem_encode {bytes : List UInt8} {c : Char} (h : c ∈ encode bytes) :
    c = '=' ∨ ∃ n < 64, c = digit n := by
  induction bytes using encode.induct with
  | case1 => cases h
  | case2 x =>
    have hx := x.toNat_lt
    rw [encode, List.mem_append] at h
    rcases h with h | h
    · exact .inr (mem_digits (by omega) h)
    · exact .inl (by simpa using h)
  | case3 x y =>
    have hx := x.toNat_lt
    have hy := y.toNat_lt
    rw [encode, List.mem_append] at h
    rcases h with h | h
    · exact .inr (mem_digits (by omega) h)
    · exact .inl (List.mem_singleton.mp h)
  | case4 x y z rest ih =>
    have hx := x.toNat_lt
    have hy := y.toNat_lt
    have hz := z.toNat_lt
    rw [encode, List.mem_append] at h
    rcases h with h | h
    · exact .inr (mem_digits (by omega) h)
    · exact ih h

end ShardRouting.Base64
