/-
# LERG lookup is longest-prefix match

A LERG row describes a thousands block, `npa`, `nxx` and `x`, or with an empty `x` a whole exchange.
`addRow` makes one integer of the three columns and files the row under it: `npa*10000 + nxx*10 + x`
in one dictionary, `npa*1000 + nxx` in the other.  `getLergs` divides the number by 1000, looks the
quotient up in the first, and where that left the key of the slot zero divides by 10 once more and
asks the second.

Neither the scaled integers nor the zero are part of what the table is for: a number should get
the row of its block, else the row of its exchange.  `longestMatch` says that over the digits, and
`getLergs_longest_match` is the agreement, for rows whose columns are in the range of their digits.
-/
import CallFwd.Tables.Records

namespace CallFwd

open Lib

namespace LergMapping

/-! ## 1. Rows and digits -/

/-- The three columns of a row as numbers. -/
def npa (row : List Text) : ℤ := signedValue (column row 0)
def nxx (row : List Text) : ℤ := signedValue (column row 1)
def x (row : List Text) : ℤ := signedValue (column row 2)

/-- The row has no thousands block. -/
def isExchange (row : List Text) : Bool := (column row 2).isEmpty

/-- Three digits without a leading zero, three digits, and one digit or none. -/
def InRange (row : List Text) : Prop :=
  (100 ≤ npa row ∧ npa row ≤ 999) ∧ (0 ≤ nxx row ∧ nxx row ≤ 999) ∧
    (isExchange row = true ∨ (0 ≤ x row ∧ x row ≤ 9))

instance (row : List Text) : Decidable (InRange row) :=
  inferInstanceAs (Decidable ((_ ∧ _) ∧ (_ ∧ _) ∧ (_ ∨ (_ ∧ _))))

/-- The first six digits of `n` are those of the row. -/
def sameExchange (row : List Text) (n : UInt64) : Bool :=
  decide ((n.toNat / 10 ^ 7 : ℕ) = npa row) && decide ((n.toNat / 10 ^ 4 % 1000 : ℕ) = nxx row)

/-- The seventh is, too. -/
def sameBlock (row : List Text) (n : UInt64) : Bool :=
  sameExchange row n && decide ((n.toNat / 10 ^ 3 % 10 : ℕ) = x row)

/-- The row of the number's block, or else of its exchange. -/
def longestMatch (rows : List (List Text)) (n : UInt64) : Option (List Text) :=
  (rows.find? fun row => !isExchange row && sameBlock row n).or
    (rows.find? fun row => isExchange row && sameExchange row n)

/-- The key a row is filed under. -/
def rowKey (row : List Text) : UInt64 :=
  UInt64.ofInt (if isExchange row then npa row * 1000 + nxx row
    else npa row * 10000 + nxx row * 10 + x row)

/-- The fields of a row.  In a row with a thousands block a blank stands for an empty text. -/
def rowData (row : List Text) : LergData :=
  let field := if isExchange row then id else orBlank
  { lerg_key := rowKey row
    state := field (column row 3)
    company := field (column row 4)
    ocn := field (column row 5)
    rate_center := field (column row 6)
    ocn_type := field (column row 7)
    lata := field (column row 8)
    country := field (column row 9) }

/-! ## 2. What an accepted row is filed under -/

theorem subscript_eq_ok {row : List Text} {i : ℕ} {s : Text} (h : subscript row i = .ok s) :
    s = column row i := by
  unfold subscript at h
  unfold column
  split at h
  · rename_i s' hs
    cases h
    rw [hs]
    rfl
  · cases h

theorem stoll_eq_ok {s : Text} {n : ℤ} (h : stoll s = .ok n) : n = signedValue s := by
  cases hn : isNumeral s with
  | true =>
    rw [stoll_of_isNumeral hn] at h
    cases h
    rfl
  | false =>
    obtain ⟨e, he, -⟩ := stoll_error hn
    rw [he] at h
    cases h

theorem longLong_eq_ok {n m : ℤ} (h : longLong n = .ok m) : m = n := by
  unfold longLong at h
  split at h
  · cases h
    rfl
  · cases h

theorem keyNpaNxx_eq_ok {row : List Text} {key : ℤ} (h : keyNpaNxx row = .ok key) :
    key = npa row * 1000 + nxx row := by
  obtain ⟨s0, h0, h⟩ := bind_eq_ok.mp h
  obtain ⟨a, ha, h⟩ := bind_eq_ok.mp h
  obtain ⟨s1, h1, h⟩ := bind_eq_ok.mp h
  obtain ⟨b, hb, h⟩ := bind_eq_ok.mp h
  obtain ⟨m, hm, h⟩ := bind_eq_ok.mp h
  rw [longLong_eq_ok h, longLong_eq_ok hm, stoll_eq_ok ha, stoll_eq_ok hb, subscript_eq_ok h0,
    subscript_eq_ok h1]
  rfl

theorem keyNpaNxxX_eq_ok {row : List Text} {key : ℤ} (h : keyNpaNxxX row = .ok key) :
    key = npa row * 10000 + nxx row * 10 + x row := by
  obtain ⟨s0, h0, h⟩ := bind_eq_ok.mp h
  obtain ⟨a, ha, h⟩ := bind_eq_ok.mp h
  obtain ⟨s1, h1, h⟩ := bind_eq_ok.mp h
  obtain ⟨b, hb, h⟩ := bind_eq_ok.mp h
  obtain ⟨s2, h2, h⟩ := bind_eq_ok.mp h
  obtain ⟨c, hc, h⟩ := bind_eq_ok.mp h
  obtain ⟨m, hm, h⟩ := bind_eq_ok.mp h
  obtain ⟨n, hn, h⟩ := bind_eq_ok.mp h
  obtain ⟨k, hk, h⟩ := bind_eq_ok.mp h
  rw [longLong_eq_ok h, longLong_eq_ok hk, longLong_eq_ok hm, longLong_eq_ok hn, stoll_eq_ok ha,
    stoll_eq_ok hb, stoll_eq_ok hc, subscript_eq_ok h0, subscript_eq_ok h1, subscript_eq_ok h2]
  rfl

theorem record_eq_ok {field : Text → Text} {row : List Text} {lerg_key : UInt64} {v : LergData}
    (h : record field row lerg_key = .ok v) :
    v = ⟨lerg_key, field (column row 3), field (column row 4), field (column row 5),
      field (column row 6), field (column row 7), field (column row 8), field (column row 9)⟩ := by
  obtain ⟨s3, h3, h⟩ := bind_eq_ok.mp h
  obtain ⟨s4, h4, h⟩ := bind_eq_ok.mp h
  obtain ⟨s5, h5, h⟩ := bind_eq_ok.mp h
  obtain ⟨s6, h6, h⟩ := bind_eq_ok.mp h
  obtain ⟨s7, h7, h⟩ := bind_eq_ok.mp h
  obtain ⟨s8, h8, h⟩ := bind_eq_ok.mp h
  obtain ⟨s9, h9, h⟩ := bind_eq_ok.mp h
  cases h
  rw [subscript_eq_ok h3, subscript_eq_ok h4, subscript_eq_ok h5, subscript_eq_ok h6,
    subscript_eq_ok h7, subscript_eq_ok h8, subscript_eq_ok h9]

/-- The entry of one of the two dictionaries that a row makes. -/
def entry (row : List Text) : UInt64 × LergData := (rowKey row, rowData row)

/-- The dictionaries after the rows `rows` were accepted, in this order. -/
structure Holds (d : Data) (rows : List (List Text)) : Prop where
  block : d.dict.entries = (rows.filter fun row => !isExchange row).map entry
  exchange : d.dic_npa_nxx.entries = (rows.filter isExchange).map entry

theorem holds_empty : Holds Data.empty [] := ⟨rfl, rfl⟩

/-- The step: an accepted row is filed in the dictionary its third column decides. -/
theorem Holds.addRow {d d' : Data} {rows : List (List Text)} {row : List Text} (h : Holds d rows)
    (hadd : addRow d row = .ok d') : Holds d' (rows ++ [row]) := by
  obtain ⟨s2, h2, hadd⟩ := bind_eq_ok.mp hadd
  obtain rfl := subscript_eq_ok h2
  by_cases hx : column row 2 = []
  · have hex : isExchange row = true := by rw [isExchange, hx]; rfl
    rw [if_pos hx] at hadd
    obtain ⟨key, hkey, hadd⟩ := bind_eq_ok.mp hadd
    obtain ⟨m, hm, hadd⟩ := bind_eq_ok.mp hadd
    cases hadd
    obtain ⟨hnew, -, v, hv, rfl⟩ := MappingData.addRow_eq_ok.mp hm
    have hentry : (UInt64.ofInt key, v) = entry row := by
      rw [record_eq_ok hv, keyNpaNxx_eq_ok hkey]
      simp [entry, rowData, rowKey, hex]
    constructor
    · simpa [hex] using h.block
    · change (d.dic_npa_nxx.emplace (UInt64.ofInt key) v).entries = _
      rw [KeyMap.entries_emplace v hnew, h.exchange, hentry]
      simp [hex]
  · have hex : isExchange row = false := by simpa [isExchange] using hx
    rw [if_neg hx] at hadd
    obtain ⟨key, hkey, hadd⟩ := bind_eq_ok.mp hadd
    obtain ⟨m, hm, hadd⟩ := bind_eq_ok.mp hadd
    cases hadd
    obtain ⟨hnew, -, v, hv, rfl⟩ := MappingData.addRow_eq_ok.mp hm
    have hentry : (UInt64.ofInt key, v) = entry row := by
      rw [record_eq_ok hv, keyNpaNxxX_eq_ok hkey]
      simp [entry, rowData, rowKey, hex]
    constructor
    · change (d.dict.emplace (UInt64.ofInt key) v).entries = _
      rw [KeyMap.entries_emplace v hnew, h.block, hentry]
      simp [hex]
    · simpa [hex] using h.exchange

/-- The run. -/
theorem Holds.addRows {more rows : List (List Text)} {d d' : Data} (h : Holds d rows)
    (hadd : more.foldlM LergMapping.addRow d = .ok d') : Holds d' (rows ++ more) := by
  induction more generalizing rows d with
  | nil =>
    cases hadd
    rwa [List.append_nil]
  | cons row more ih =>
    rw [List.foldlM_cons] at hadd
    obtain ⟨d₁, h1, h2⟩ := bind_eq_ok.mp hadd
    have hrest := ih (Holds.addRow h h1) h2
    rwa [List.append_assoc] at hrest

/-! ## 3. Lookups over the digits -/

theorem toNat_ofInt {k : ℤ} (h0 : 0 ≤ k) (h1 : k < 2 ^ 64) : (UInt64.ofInt k).toNat = k.toNat := by
  rw [UInt64.ofInt, UInt64.toNat_ofNat']
  omega

/-- Digits in range make a key without overflow. -/
theorem toNat_rowKey {row : List Text} (h : InRange row) :
    ((rowKey row).toNat : ℤ) = if isExchange row then npa row * 1000 + nxx row
      else npa row * 10000 + nxx row * 10 + x row := by
  obtain ⟨⟨ha, ha'⟩, ⟨hb, hb'⟩, hc⟩ := h
  cases hx : isExchange row with
  | true =>
    rw [rowKey, hx, if_pos rfl, toNat_ofInt (by omega) (by omega)]
    omega
  | false =>
    obtain ⟨hc, hc'⟩ := hc.resolve_left (by simp [hx])
    rw [rowKey, hx, if_neg Bool.false_ne_true, toNat_ofInt (by omega) (by omega)]
    omega

/-- The quotient by 1000 is the key of the number's block. -/
theorem rowKey_eq_block_iff {row : List Text} (h : InRange row) (hx : isExchange row = false)
    (n : UInt64) : rowKey row = n / 1000 ↔ sameBlock row n = true := by
  have hkey := toNat_rowKey h
  rw [hx, if_neg Bool.false_ne_true] at hkey
  obtain ⟨⟨ha, ha'⟩, ⟨hb, hb'⟩, hc⟩ := h
  obtain ⟨hc, hc'⟩ := hc.resolve_left (by simp [hx])
  rw [← UInt64.toNat_inj, UInt64.toNat_div]
  simp only [sameBlock, sameExchange, Bool.and_eq_true, decide_eq_true_eq]
  change _ = n.toNat / 1000 ↔ _
  omega

/-- The quotient by 10000 is the key of its exchange. -/
theorem rowKey_eq_exchange_iff {row : List Text} (h : InRange row) (hx : isExchange row = true)
    (n : UInt64) : rowKey row = n / 1000 / 10 ↔ sameExchange row n = true := by
  have hkey := toNat_rowKey h
  rw [hx, if_pos rfl] at hkey
  obtain ⟨⟨ha, ha'⟩, ⟨hb, hb'⟩, -⟩ := h
  rw [← UInt64.toNat_inj, UInt64.toNat_div, UInt64.toNat_div]
  simp only [sameExchange, Bool.and_eq_true, decide_eq_true_eq]
  change _ = n.toNat / 1000 / 10 ↔ _
  omega

/-- The zero that stands for a miss is the key of no row. -/
theorem rowKey_ne_zero {row : List Text} (h : InRange row) : rowKey row ≠ 0 := by
  intro h0
  have hkey := toNat_rowKey h
  rw [h0] at hkey
  change (0 : ℤ) = _ at hkey
  obtain ⟨⟨ha, ha'⟩, ⟨hb, hb'⟩, hc⟩ := h
  cases hx : isExchange row with
  | true =>
    rw [hx, if_pos rfl] at hkey
    omega
  | false =>
    obtain ⟨hc, hc'⟩ := hc.resolve_left (by simp [hx])
    rw [hx, if_neg Bool.false_ne_true] at hkey
    omega

section Lookups

variable {d : Data} {rows : List (List Text)}

/-- A lookup among the entries of some of the rows. -/
theorem find_eq {m : KeyMap UInt64 LergData} {p : List Text → Bool}
    (hm : m.entries = (rows.filter p).map entry) (k : UInt64) :
    m.find k = (rows.find? fun row => p row && decide (rowKey row = k)).map rowData := by
  rw [KeyMap.find, hm, List.find?_map, List.find?_filter, Option.map_map]
  refine congrArg _ (List.find?_congr fun row _ => ?_)
  rw [Bool.eq_iff_iff, decide_eq_true_iff, Bool.and_eq_true]
  exact Iff.rfl

theorem Holds.find_block (h : Holds d rows) (hr : ∀ row ∈ rows, InRange row) (n : UInt64) :
    d.dict.find (n / 1000) =
      (rows.find? fun row => !isExchange row && sameBlock row n).map rowData := by
  rw [find_eq h.block]
  refine congrArg _ (List.find?_congr fun row hrow => ?_)
  cases hx : isExchange row with
  | true => rfl
  | false =>
    rw [Bool.not_false, Bool.true_and, Bool.true_and, Bool.eq_iff_iff, decide_eq_true_iff]
    exact rowKey_eq_block_iff (hr row hrow) hx n

theorem Holds.find_exchange (h : Holds d rows) (hr : ∀ row ∈ rows, InRange row) (n : UInt64) :
    d.dic_npa_nxx.find (n / 1000 / 10) =
      (rows.find? fun row => isExchange row && sameExchange row n).map rowData := by
  rw [find_eq h.exchange]
  refine congrArg _ (List.find?_congr fun row hrow => ?_)
  cases hx : isExchange row with
  | false => rfl
  | true =>
    rw [Bool.true_and, Bool.true_and, Bool.eq_iff_iff, decide_eq_true_iff]
    exact rowKey_eq_exchange_iff (hr row hrow) hx n

/-- One slot: the second dictionary is asked exactly when the first has no row. -/
theorem Holds.fillSlot (h : Holds d rows) (hr : ∀ row ∈ rows, InRange row) (n : UInt64)
    (slot : LergData) :
    d.fillSlot n slot = ((longestMatch rows n).map rowData).getD (clear slot) := by
  rw [Data.fillSlot, longestMatch, h.find_block hr, h.find_exchange hr]
  cases hb : rows.find? fun row => !isExchange row && sameBlock row n with
  | some row =>
    have hne : (rowData row).lerg_key ≠ 0 := rowKey_ne_zero (hr row (List.mem_of_find?_eq_some hb))
    exact if_neg hne
  | none =>
    rw [Option.none_or]
    exact if_pos rfl

end Lookups

/-- **Longest-prefix match.**  Behind any run of accepted rows, for any block size and any batch,
each slot gets the fields of the row of the number's block, else those of the row of its exchange,
else a zero key; what it held before shows in the last case only, and the other slots nowhere. -/
theorem getLergs_longest_match {rows : List (List Text)} {d : Data}
    (hrows : rows.foldlM addRow Data.empty = .ok d) (hrange : ∀ row ∈ rows, InRange row)
    (prefetch : ℕ+) (pn : List UInt64) (lerg : List LergData) (hlen : lerg.length = pn.length) :
    d.build.getLergs prefetch pn lerg =
      List.zipWith (fun n slot => ((longestMatch rows n).map rowData).getD (clear slot))
        pn lerg := by
  have hholds : Holds d rows := Holds.addRows holds_empty hrows
  rw [Data.getLergs, fillBlocks_eq_zipWith prefetch _ pn lerg hlen]
  refine congrArg (fun f => List.zipWith f pn lerg) (funext fun n => funext fun slot => ?_)
  exact Holds.fillSlot (d := d.build) ⟨hholds.block, hholds.exchange⟩ hrange n slot

/-- A block of an exchange and the exchange itself. -/
def sampleRows : List (List Text) :=
  [["201", "202", "3", "NJ", "ACME", "1234", "HOBOKEN", "CLEC", "224", "US"].map String.toList,
    ["201", "202", "", "NY", "BELL", "", "", "RBOC", "132", "US"].map String.toList]

/-- A number of the block, one beside it and one of another exchange. -/
theorem getLergs_longest_match_sample :
    ∃ d, sampleRows.foldlM addRow Data.empty = .ok d ∧
      (d.build.getLergs 2 [2012023999, 2012024000, 2122024000]
        (List.replicate 3 ⟨7, [], [], [], [], [], [], []⟩)).map
          (fun lerg => (lerg.lerg_key, lerg.state)) =
        [(2012023, "NJ".toList), (201202, "NY".toList), (0, [])] := by
  refine ⟨_, rfl, ?_⟩
  rw [@getLergs_longest_match sampleRows _ rfl (by decide) 2 _ _ rfl]
  rfl

end LergMapping

end CallFwd
