import Mathlib.Data.Finset.Card
import NodeDebugDashboard.Library.Base64

/-! `cmd_keys` of scripts/kdiag-etcd: which keys the range of a prefix counts. -/
namespace NodeDebugDashboard.Scripts.EtcdKeys

open Library.Text

/-- A prefix of keys, without the slash behind it. -/
structure Prefix where
  text : Bytes
  ne_nil : text ≠ []
  not_slash : text.getLast? ≠ some 0x2f

/-- The lines of the output of `base64`, without the last line end. -/
def wrap : Nat → List Char → List Char
  | 0, text => text
  | lines + 1, text =>
      if text.length ≤ 76 then text else text.take 76 ++ '\n' :: wrap lines (text.drop 76)

/-- `echo -n "$data" | base64` -/
def base64 (data : Bytes) : List Char := wrap (b64encode data).length (b64encode data)

/-- The body of the request. -/
structure Request where
  key : List Char
  rangeEnd : List Char
  countOnly : Bool

/-- The request for a prefix: the end of the range is the prefix and a `0`. -/
def request (p : Prefix) : Request where
  key := base64 p.text
  rangeEnd := base64 (p.text ++ [0x30])
  countOnly := true

/-- The first key of the range, and the one that ends it. A line end makes the body no JSON. -/
def Request.range? (r : Request) : Option (Bytes × Bytes) :=
  if '\n' ∈ r.key ∨ '\n' ∈ r.rangeEnd then none
  else do
    let first ← b64decode r.key
    let last ← b64decode r.rangeEnd
    return (first, last)

/-- The range that the script asks for. -/
def range (p : Prefix) : Bytes × Bytes := (p.text, p.text ++ [0x30])

/-- What etcd counts: the keys from the first on, up to the last. -/
def count (keys : Finset Bytes) (range : Bytes × Bytes) : Nat :=
  (keys.filter fun key => ¬key < range.1 ∧ key < range.2).card

/-- The keys under a prefix. -/
def under (keys : Finset Bytes) (p : Prefix) : Finset Bytes :=
  keys.filter fun key => p.text ++ [0x2f] <+: key

/-- The keys that sort in front of those under the prefix, but behind the prefix. -/
def Strays (p : Prefix) (key : Bytes) : Prop :=
  key = p.text ∨ ∃ b rest, key = p.text ++ b :: rest ∧ b < 0x2f

theorem length_b64encode (data : Bytes) : (b64encode data).length = (data.length + 2) / 3 * 4 := by
  fun_induction b64encode data with
  | case1 a b c rest ih => simp [ih]; omega
  | case2 => simp
  | case3 => simp
  | case4 => rfl

/-- A prefix that fits on a line reaches etcd as it is. -/
theorem range?_request {p : Prefix} (h : p.text.length ≤ 56) :
    (request p).range? = some (range p) := by
  have hShort : ∀ data : Bytes, data.length ≤ 57 → base64 data = b64encode data := by
    intro data hData
    have hLength := length_b64encode data
    rw [base64]
    cases hLines : (b64encode data).length with
    | zero => rfl
    | succ lines =>
        rw [wrap, if_pos]
        omega
  have hLine : ∀ data : Bytes, '\n' ∉ b64encode data := fun data hMem =>
    absurd (b64encode_plain data '\n' hMem).2 (by decide)
  have hKey : (request p).key = b64encode p.text := hShort _ (by omega)
  have hEnd : (request p).rangeEnd = b64encode (p.text ++ [0x30]) := hShort _ (by simp; omega)
  rw [Request.range?, hKey, hEnd, if_neg (by simp [hLine]), b64decode_b64encode,
    b64decode_b64encode]
  rfl

/-- `prefixes` -/
def prefixes : List String :=
  ["/registry/pods", "/registry/services", "/registry/configmaps", "/registry/secrets",
    "/registry/deployments", "/registry/events", "/registry/leases", "/registry/endpointslices",
    "/registry/nodes"]

/-- The listed prefixes are of the kind, and each fits on a line. -/
theorem exists_prefix {name : String} (h : name ∈ prefixes) :
    ∃ p : Prefix, p.text = encodeUtf8 name.toList ∧ (request p).range? = some (range p) := by
  have hListed :
      ∀ name ∈ prefixes, encodeUtf8 name.toList ≠ [] ∧
      (encodeUtf8 name.toList).getLast? ≠ some 0x2f ∧
      (encodeUtf8 name.toList).length ≤ 56 := by decide +kernel
  obtain ⟨hSome, hSlash, hLength⟩ := hListed name h
  exact ⟨{ text := encodeUtf8 name.toList, ne_nil := hSome, not_slash := hSlash }, rfl,
    range?_request hLength⟩

/-- The range holds the keys under the prefix and the strays. -/
theorem mem_range_iff (p : Prefix) (key : Bytes) : ¬key < (range p).1 ∧ key < (range p).2 ↔
    p.text ++ [0x2f] <+: key ∨ Strays p key := by
  have hUnder : p.text ++ [0x2f] <+: key ↔ ∃ rest, key = p.text ++ 0x2f :: rest := by
    constructor
    · rintro ⟨rest, rfl⟩
      exact ⟨rest, by simp⟩
    · rintro ⟨rest, rfl⟩
      exact ⟨rest, by simp⟩
  have hBound : ∀ b : UInt8, b < 0x30 ↔ b = 0x2f ∨ b < 0x2f := by
    intro b
    have hLast : (0x30 : UInt8).toNat = 48 := rfl
    have hSlash : (0x2f : UInt8).toNat = 47 := rfl
    rw [UInt8.lt_iff_toNat_lt, UInt8.lt_iff_toNat_lt, ← UInt8.toNat_inj]
    omega
  rw [range, mem_prefixRange, hUnder, Strays]
  constructor
  · rintro (rfl | ⟨b, rest, rfl, hLess⟩)
    · exact Or.inr (Or.inl rfl)
    · rcases (hBound b).mp hLess with rfl | hBelow
      · exact Or.inl ⟨rest, rfl⟩
      · exact Or.inr (Or.inr ⟨b, rest, rfl, hBelow⟩)
  · rintro (⟨rest, rfl⟩ | rfl | ⟨b, rest, rfl, hBelow⟩)
    · exact Or.inr ⟨0x2f, rest, rfl, by decide⟩
    · exact Or.inl rfl
    · exact Or.inr ⟨b, rest, rfl, (hBound b).mpr (Or.inr hBelow)⟩

/-- A stray is not under the prefix. -/
theorem Strays.not_under {p : Prefix} {key : Bytes} (h : Strays p key) :
    ¬p.text ++ [0x2f] <+: key := by
  rintro ⟨later, rfl⟩
  rcases h with hSame | ⟨b, rest, hKey, hBelow⟩
  · simp at hSame
  · rw [List.append_assoc, List.append_cancel_left_eq, List.singleton_append] at hKey
    obtain ⟨rfl, _⟩ := List.cons_eq_cons.mp hKey
    exact absurd hBelow (by decide)

/-- The count is that of the keys under the prefix exactly when no key is the prefix itself or
goes on behind it with a byte below the slash. -/
theorem etcdKeyRange_iff (p : Prefix) (keys : Finset Bytes) :
    count keys (range p) = (under keys p).card ↔ ∀ key ∈ keys, ¬Strays p key := by
  have hSubset : under keys p ⊆ keys.filter fun key => ¬key < (range p).1 ∧ key < (range p).2 := by
    intro key hMem
    obtain ⟨hKey, hUnder⟩ := Finset.mem_filter.mp hMem
    exact Finset.mem_filter.mpr ⟨hKey, (mem_range_iff p key).mpr (Or.inl hUnder)⟩
  constructor
  · intro hCount key hKey hStray
    have hSame := Finset.eq_of_subset_of_card_le hSubset hCount.le
    have hRange : key ∈ under keys p := by
      rw [hSame]
      exact Finset.mem_filter.mpr ⟨hKey, (mem_range_iff p key).mpr (Or.inr hStray)⟩
    exact hStray.not_under (Finset.mem_filter.mp hRange).2
  · intro hNone
    rw [count, under]
    congr 1
    refine Finset.filter_congr fun key hKey => ?_
    rw [mem_range_iff, or_iff_left (hNone key hKey)]

/-- The prefix of the services. -/
def services : Prefix where
  text := encodeUtf8 "/registry/services".toList
  ne_nil := by decide +kernel
  not_slash := by decide +kernel

/-- A key of the group `services.k8s.aws`. -/
def adopted : Bytes :=
  encodeUtf8 "/registry/services.k8s.aws/adoptedresources/default/bucket".toList

/-- The key of another group is counted among the services. -/
theorem not_etcdKeyRange :
    count {adopted} (range services) = 1 ∧ (under {adopted} services).card = 0 := by
  have hStray : Strays services adopted := Or.inr ⟨0x2e,
    encodeUtf8 "k8s.aws/adoptedresources/default/bucket".toList, by decide +kernel, by decide⟩
  constructor
  · have hRange := (mem_range_iff services adopted).mpr (Or.inr hStray)
    rw [count, Finset.filter_singleton, if_pos hRange, Finset.card_singleton]
  · rw [under, Finset.filter_singleton, if_neg hStray.not_under, Finset.card_empty]

end NodeDebugDashboard.Scripts.EtcdKeys
