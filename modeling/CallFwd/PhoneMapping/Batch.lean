/-
# Batched lookups over the history of a builder

`Data::getRNs` hashes a block of keys into a vector of tokens and then looks them up.  The vector
is sized ONCE, for the first block, and every block writes it from index 0; the arrays `pn` and
`rn` are read and written behind pointers that advance by a block.  None of these accesses is
checked.  Here the loop is written with all of them explicit, over whatever the output array held,
and `getRNsTokens_eq_ok` says that no access is out of bounds and that the result is the `getRNs`
of `Data.lean`.

The table comes from a builder whose caller went on after `addRow` threw.  In C++ an exception
does not undo what was done before it, so `Builder.addRow` runs on a state that a throw keeps:
the checks stand before the first insertion, and `call_eq` is what follows from that.
`getRNs_history` puts the two together.
-/
import CallFwd.PhoneMapping.Data

namespace CallFwd

open Lib

namespace PhoneMapping

/-! ## 1. The builder, with its state across a throw -/

/-- A member function of the builder: what it did to `data_` stays done when it throws. -/
abbrev BuilderM := ExceptT Stop (StateM Data)

/-- `PhoneMapping::Builder::addRow`, statement by statement. -/
def Builder.addRow (pn rn : UInt64) : BuilderM Unit := do
  if (← get).dict.count pn then
    throw (.exn (.runtimeError "PhoneMapping::Builder: duplicate key"))
  if MAXROWS ≤ (← get).pnColumn.length then
    throw (.exn (.runtimeError "PhoneMapping::Builder: too much rows"))
  modify fun d => { d with dict := d.dict.emplace pn rn }
  modify fun d => { d with pnColumn := d.pnColumn ++ [PhoneList.pack pn MAXROWS] }
  modify fun d => { d with index := d.index ++ [PhoneList.pack rn MAXROWS] }

/-- One call: what it returned, and the builder behind it. -/
def Builder.call (d : Data) (r : UInt64 × UInt64) : Except Stop Unit × Data :=
  (Builder.addRow r.1 r.2).run.run d

/-- `PhoneMapping::Builder::build()`: the data of the mapping that is handed out. -/
def Builder.build (d : Data) : Data := MappingData.build d

/-- The builder after a history: each call is made, whatever became of those before it. -/
def history (d : Data) (calls : List (UInt64 × UInt64)) : Data :=
  calls.foldl (fun d r => (Builder.call d r).2) d

/-- The rows of the calls that returned. -/
def acceptedRows : Data → List (UInt64 × UInt64) → List (UInt64 × UInt64)
  | _, [] => []
  | d, r :: calls =>
    match Builder.call d r with
    | (.ok _, d') => r :: acceptedRows d' calls
    | (.error _, d') => acceptedRows d' calls

/-- The routing number of the first row with the key `pn`, or `NONE`. -/
def firstRN (rows : List (UInt64 × UInt64)) (pn : UInt64) : UInt64 :=
  ((rows.find? fun r => decide (r.1 = pn)).map Prod.snd).getD PhoneNumber.NONE

theorem run_get (d : Data) : (get : BuilderM Data).run.run d = pure (.ok d, d) := rfl

theorem run_modify (f : Data → Data) (d : Data) :
    (modify f : BuilderM Unit).run.run d = pure (.ok (), f d) := rfl

/-- **A call that throws has changed nothing**, and one that returns made the three insertions. -/
theorem call_eq (d : Data) (r : UInt64 × UInt64) :
    Builder.call d r = match PhoneMapping.addRow d r.1 r.2 with
      | .ok d' => (.ok (), d')
      | .error e => (.error e, d) := by
  rw [PhoneMapping.addRow, MappingData.addRow, MappingData.checkRow, Builder.call, Builder.addRow]
  by_cases hk : r.1 ∈ d.dict.keys
  · simp [ExceptT.run_bind, run_get, hk, throwRuntimeError]
    rfl
  · by_cases hl : MAXROWS ≤ d.pnColumn.length
    · simp [ExceptT.run_bind, run_get, hk, hl, throwRuntimeError]
      rfl
    · simp [ExceptT.run_bind, run_get, run_modify, hk, hl]
      rfl

theorem call_error {d d' : Data} {r : UInt64 × UInt64} {e : Stop}
    (h : Builder.call d r = (.error e, d')) : d' = d := by
  rw [call_eq] at h
  split at h
  · cases h
  · cases h
    rfl

/-- **What a history leaves**: the builder holds the accepted rows, in the order of the calls. -/
theorem Holds.history {calls rows : List (UInt64 × UInt64)} {d : Data} (h : Holds d rows) :
    Holds (history d calls) (rows ++ acceptedRows d calls) := by
  induction calls generalizing rows d with
  | nil =>
    rw [acceptedRows, List.append_nil]
    exact h
  | cons r calls ih =>
    rw [PhoneMapping.history, List.foldl_cons, acceptedRows]
    have hcall := call_eq d r
    cases hadd : PhoneMapping.addRow d r.1 r.2 with
    | ok d' =>
      rw [hadd] at hcall
      simp only [hcall]
      have hrest := ih (Holds.addRow h hadd)
      rwa [List.append_assoc] at hrest
    | error e =>
      rw [hadd] at hcall
      simp only [hcall]
      exact ih h

theorem Holds.lookup_eq_firstRN {d : Data} {rows : List (UInt64 × UInt64)} (h : Holds d rows)
    (pn : UInt64) : d.lookup pn = firstRN rows pn := by
  rw [firstRN, ← h.dict]
  rfl

/-! ## 2. `getRNs` with its tokens -/

variable {Token : Type}

/-- `v[i] = x` on an array: no bounds check. -/
def store {α : Type} (v : List α) (i : ℕ) (x : α) : Except Stop (List α) :=
  if i < v.length then .ok (v.set i x) else .error (.undefined .outOfBounds)

/-- `dict.find(token, pn)`: the token has to be the one `prehash` gave for this key; with another
one nothing is found. -/
def Data.findToken [DecidableEq Token] (d : Data) (prehash : UInt64 → Token) (token : Token)
    (pn : UInt64) : Option UInt64 :=
  if token = prehash pn then d.dict.find pn else none

/-- `for (i = 0; i < M; ++i) token[i] = dict.prehash(pn[i]);` with `pn` advanced by `off`. -/
def hashBlock (prehash : UInt64 → Token) (pn : List UInt64) (off M : ℕ) (token : List Token) :
    Except Stop (List Token) :=
  (List.range M).foldlM (fun token i => do
    store token i (prehash (← subscript pn (off + i)))) token

/-- The fill loop of a block, with `pn` and `rn` advanced by `off`. -/
def Data.fillBlock [DecidableEq Token] (d : Data) (prehash : UInt64 → Token) (pn : List UInt64)
    (off M : ℕ) (token : List Token) (rn : List UInt64) : Except Stop (List UInt64) :=
  (List.range M).foldlM (fun rn i => do
    let it := d.findToken prehash (← subscript token i) (← subscript pn (off + i))
    store rn (off + i) (it.getD PhoneNumber.NONE)) rn

/-- The loop over the blocks: `N` keys are left, and the pointers stand at `off`. -/
def Data.getRNsLoop [DecidableEq Token] (d : Data) (prehash : UInt64 → Token) (prefetch : ℕ+)
    (pn : List UInt64) (N off : ℕ) (token : List Token) (rn : List UInt64) :
    Except Stop (List UInt64) :=
  if _h : N = 0 then .ok rn
  else do
    let M := min N prefetch
    let token ← hashBlock prehash pn off M token
    let rn ← d.fillBlock prehash pn off M token rn
    d.getRNsLoop prehash prefetch pn (N - M) (off + M) token rn
termination_by N
decreasing_by
  have := prefetch.pos
  omega

/-- `Data::getRNs(N, pn, rn)`: `token` is resized to `min(N, prefetch)` before the loop, and
`rn` is what the output array holds. -/
def Data.getRNsTokens [DecidableEq Token] [Inhabited Token] (d : Data)
    (prehash : UInt64 → Token) (prefetch : ℕ+) (pn rn : List UInt64) : Except Stop (List UInt64) :=
  let N := pn.length
  d.getRNsLoop prehash prefetch pn N 0 (List.replicate (min N prefetch) default) rn

/-- `PhoneMapping::getRN(pn)`: `unset` is what the uninitialised `rn` happens to hold. -/
def Data.getRNToken [DecidableEq Token] [Inhabited Token] (d : Data)
    (prehash : UInt64 → Token) (prefetch : ℕ+) (pn unset : UInt64) : Except Stop UInt64 := do
  subscript (← d.getRNsTokens prehash prefetch [pn] [unset]) 0

theorem store_of_lt {α : Type} {v : List α} {i : ℕ} (x : α) (h : i < v.length) :
    store v i x = .ok (v.set i x) := by
  rw [store, if_pos h]

/-- The tokens of a block, when the vector has room for it. -/
theorem hashBlock_ok (prehash : UInt64 → Token) {pn : List UInt64} {off M : ℕ}
    {token : List Token} (hpn : off + M ≤ pn.length) (htok : M ≤ token.length) :
    ∃ token', hashBlock prehash pn off M token = .ok token' ∧ token'.length = token.length ∧
      ∀ j < M, token'[j]? = pn[off + j]?.map prehash := by
  refine foldlM_range_ok (P := fun i (t : List Token) => t.length = token.length ∧
    ∀ j < i, t[j]? = pn[off + j]?.map prehash) ⟨rfl, fun j hj => absurd hj (Nat.not_lt_zero j)⟩ ?_
  rintro i t hi ⟨hlen, hset⟩
  rw [subscript_of_lt (by omega : off + i < pn.length)]
  refine ⟨t.set i (prehash pn[off + i]), store_of_lt _ (by omega), by simpa using hlen, ?_⟩
  intro j hj
  by_cases hji : j = i
  · subst hji
    rw [List.getElem?_set_self (by omega), List.getElem?_eq_getElem (by omega), Option.map_some]
  · rw [List.getElem?_set_ne (Ne.symm hji)]
    exact hset j (by omega)

/-- The slots of a block, when the tokens are those of its keys. -/
theorem fillBlock_ok [DecidableEq Token] (d : Data) (prehash : UInt64 → Token) {pn : List UInt64}
    {off M : ℕ} {token : List Token} {rn : List UInt64} (hpn : off + M ≤ pn.length)
    (hrn : rn.length = pn.length) (htok : ∀ j < M, token[j]? = pn[off + j]?.map prehash) :
    ∃ rn', d.fillBlock prehash pn off M token rn = .ok rn' ∧ rn'.length = pn.length ∧
      ∀ j, rn'[j]? = if off ≤ j ∧ j < off + M then pn[j]?.map d.lookup else rn[j]? := by
  refine foldlM_range_ok (P := fun i (t : List UInt64) => t.length = pn.length ∧
    ∀ j, t[j]? = if off ≤ j ∧ j < off + i then pn[j]?.map d.lookup else rn[j]?)
    ⟨hrn, fun j => by rw [if_neg (by omega)]⟩ ?_
  rintro i t hi ⟨hlen, hset⟩
  have hkey : pn[off + i]? = some pn[off + i] := List.getElem?_eq_getElem (by omega)
  have htoken : subscript token i = .ok (prehash pn[off + i]) := by
    rw [subscript, htok i hi, hkey]
    rfl
  rw [htoken, subscript_of_lt (by omega : off + i < pn.length)]
  refine ⟨t.set (off + i) (d.lookup pn[off + i]), ?_, by simpa using hlen, ?_⟩
  · change store t (off + i) ((d.findToken prehash _ _).getD PhoneNumber.NONE) = _
    rw [store_of_lt _ (by omega), Data.findToken, if_pos rfl, Data.lookup]
  · intro j
    by_cases hj : j = off + i
    · subst hj
      rw [List.getElem?_set_self (by omega), if_pos (by omega), hkey, Option.map_some]
    · rw [List.getElem?_set_ne (Ne.symm hj), hset j]
      by_cases hin : off ≤ j ∧ j < off + i
      · rw [if_pos hin, if_pos (by omega)]
      · rw [if_neg hin, if_neg (by omega)]

/-- **The loop over the blocks.**  The tokens are sized for the first block, and no later block is
larger, so the vector is long enough for every one of them. -/
theorem getRNsLoop_ok [DecidableEq Token] (d : Data) (prehash : UInt64 → Token) (prefetch : ℕ+)
    (pn : List UInt64) : ∀ (N off : ℕ) (token : List Token) (rn : List UInt64),
    off + N = pn.length → rn.length = pn.length → min N prefetch ≤ token.length →
      ∃ rn', d.getRNsLoop prehash prefetch pn N off token rn = .ok rn' ∧
        rn'.length = pn.length ∧
        ∀ j, rn'[j]? = if off ≤ j then pn[j]?.map d.lookup else rn[j]? := by
  intro N
  induction N using Nat.strong_induction_on with
  | _ N ih =>
    intro off token rn hN hrn htok
    rw [Data.getRNsLoop]
    by_cases h0 : N = 0
    · rw [dif_pos h0]
      refine ⟨rn, rfl, hrn, ?_⟩
      intro j
      split_ifs with hj
      · rw [List.getElem?_eq_none (by omega), List.getElem?_eq_none (by omega), Option.map_none]
      · rfl
    · rw [dif_neg h0]
      have hp := prefetch.pos
      obtain ⟨token', h1, hlen', htok'⟩ := hashBlock_ok prehash
        (by omega : off + min N prefetch ≤ pn.length) htok
      obtain ⟨rn₁, h2, hlen₁, hset₁⟩ := fillBlock_ok d prehash
        (by omega : off + min N prefetch ≤ pn.length) hrn htok'
      obtain ⟨rn₂, h3, hlen₂, hset₂⟩ := ih (N - min N prefetch) (by omega) (off + min N prefetch)
        token' rn₁ (by omega) hlen₁ (by omega)
      refine ⟨rn₂, ?_, hlen₂, ?_⟩
      · exact bind_eq_ok.mpr ⟨token', h1, bind_eq_ok.mpr ⟨rn₁, h2, h3⟩⟩
      · intro j
        rw [hset₂ j, hset₁ j]
        by_cases hj : off ≤ j
        · by_cases hj' : off + min N prefetch ≤ j
          · rw [if_pos hj', if_pos hj]
          · rw [if_neg hj', if_pos (by omega), if_pos hj]
        · rw [if_neg (by omega), if_neg (by omega), if_neg hj]

/-- **Every access of `getRNs` is in bounds**, whatever the batch, the block size, the hash and
the contents of the output array, and the result is that of `Data.getRNs`. -/
theorem getRNsTokens_eq_ok [DecidableEq Token] [Inhabited Token] (d : Data)
    (prehash : UInt64 → Token) (prefetch : ℕ+) (pn rn : List UInt64)
    (hrn : rn.length = pn.length) :
    d.getRNsTokens prehash prefetch pn rn = .ok (d.getRNs prefetch pn) := by
  obtain ⟨rn', h, -, hset⟩ := getRNsLoop_ok d prehash prefetch pn pn.length 0
    (List.replicate (min pn.length prefetch) default) rn (Nat.zero_add _) hrn
    (by rw [List.length_replicate])
  rw [Data.getRNsTokens, h, getRNs_eq_map]
  refine congrArg Except.ok (List.ext_getElem? fun j => ?_)
  rw [hset j, if_pos (Nat.zero_le j), List.getElem?_map]

theorem getRNToken_eq_ok [DecidableEq Token] [Inhabited Token] (d : Data)
    (prehash : UInt64 → Token) (prefetch : ℕ+) (pn unset : UInt64) :
    d.getRNToken prehash prefetch pn unset = .ok (d.lookup pn) := by
  rw [Data.getRNToken, getRNsTokens_eq_ok d prehash prefetch [pn] [unset] rfl, getRNs_eq_map]
  rfl

/-! ## 3. A mapping built over calls that may have thrown -/

/-- A call returns exactly when its key is new and there is room. -/
theorem call_returns_iff {d : Data} {rows : List (UInt64 × UInt64)} (h : Holds d rows)
    (r : UInt64 × UInt64) :
    (∃ d', Builder.call d r = (.ok (), d')) ↔
      r.1 ∉ rows.map Prod.fst ∧ rows.length < MAXROWS := by
  rw [call_eq, ← h.keys, ← h.length_pnColumn]
  constructor
  · rintro ⟨d', hd'⟩
    split at hd'
    · rename_i d₁ hadd
      obtain ⟨h1, h2, -⟩ := addRow_eq_ok.mp hadd
      exact ⟨h1, h2⟩
    · cases hd'
  · rintro ⟨h1, h2⟩
    rw [addRow_eq_ok.mpr ⟨h1, h2, rfl⟩]
    exact ⟨_, rfl⟩

/-- **Batched lookup over a builder's history.**  Of the calls some throw and the caller goes on;
the mapping built behind them answers every batch, in blocks of any size, and every single key
with the first accepted row.  Every prefix of a history is one, so the last two parts are about
each moment before `build()`. -/
theorem getRNs_history [DecidableEq Token] [Inhabited Token] (prehash : UInt64 → Token)
    (prefetch : ℕ+) (calls : List (UInt64 × UInt64)) (pn rn : List UInt64)
    (hrn : rn.length = pn.length) :
    let d := history MappingData.empty calls
    let rows := acceptedRows MappingData.empty calls
    ((Builder.build d).getRNsTokens prehash prefetch pn rn = .ok (pn.map (firstRN rows)) ∧
      ∀ n unset, (Builder.build d).getRNToken prehash prefetch n unset = .ok (firstRN rows n)) ∧
    (∀ r, (∃ d', Builder.call d r = (.ok (), d')) ↔
      r.1 ∉ rows.map Prod.fst ∧ rows.length < MAXROWS) ∧
    (∀ r e d', Builder.call d r = (.error e, d') →
      d'.dict = d.dict ∧ d'.pnColumn = d.pnColumn ∧ d'.index = d.index) ∧
    d.dict.size = d.pnColumn.length ∧ d.index.length = d.pnColumn.length := by
  intro d rows
  have hholds : Holds d rows := Holds.history MappingData.holds_empty
  -- `build()` leaves the dictionary alone
  have hlookup : (Builder.build d).lookup = firstRN rows :=
    funext fun n => hholds.lookup_eq_firstRN n
  refine ⟨⟨?_, ?_⟩, call_returns_iff hholds, ?_, ?_, ?_⟩
  · rw [getRNsTokens_eq_ok _ prehash prefetch pn rn hrn, getRNs_eq_map, hlookup]
  · intro n unset
    rw [getRNToken_eq_ok, hlookup]
  · intro r e d' hcall
    rw [call_error hcall]
    exact ⟨rfl, rfl, rfl⟩
  · rw [KeyMap.size, hholds.dict, hholds.length_pnColumn]
  · rw [hholds.index, hholds.pnColumn, List.length_map, List.length_map]

/-- Three calls, the second for a key that is there, and a batch of three in blocks of two. -/
theorem getRNs_history_duplicate :
    (Builder.build (history MappingData.empty [(201, 1), (201, 2), (202, 3)])).getRNsTokens id 2
      [201, 999, 202] [7, 7, 7] = .ok [1, PhoneNumber.NONE, 3] := by
  have h := (getRNs_history id 2 [(201, 1), (201, 2), (202, 3)] [201, 999, 202] [7, 7, 7] rfl).1.1
  have hrows : acceptedRows MappingData.empty [(201, 1), (201, 2), (202, 3)] =
      [(201, 1), (202, 3)] := by decide
  rw [hrows] at h
  exact h

end PhoneMapping

end CallFwd
