/-
# Cursors: rows in blocks of eight

A `PhoneMapping` is a possibly NULL pointer to a dataset and a possibly null cursor.  A cursor
fills a block of up to eight numbers from its visitor and looks their routing numbers up again
in the dictionary; `advance` steps inside the block and refills it at the end.  The two visitors
differ only in how they go on: `InverseRNVisitor` follows the links of `pnColumn` from one
position to another, `RowVisitor` counts up.

`Pending data c rows` says exactly which rows a cursor still has to yield, `Yields` says it of
the handle.  `advance` takes one row off (`Yields.step`), and so draining the handle yields them
all and ends (`Yields.drain_eq`).  Reads of `pnColumn` outside its bounds are undefined in the
model, so the drain lemma also says that there are none.
-/
import CallFwd.PhoneMapping.Index

namespace CallFwd

open Lib

namespace PhoneMapping

/-! ## 1. Visitors and cursors -/

/-- Where a visitor stands and where it ends. -/
inductive Visitor
  /-- `InverseRNVisitor`: positions in the list threaded through `pnColumn`. -/
  | inverseRN (it fin : ℕ)
  /-- `RowVisitor`: iterators into `pnColumn`. -/
  | row (it fin : ℕ)
deriving DecidableEq, Repr

/-- `for (; it_ != end_ && size_ < pn_.size(); it_ = succ(it_)) pn_[size_++] = base_[it_].phone;`
with `room` places left. -/
def fill (base : List PhoneList) (succ : ℕ → PhoneList → ℕ) (fin : ℕ) :
    ℕ → ℕ → Except Stop (List UInt64 × ℕ)
  | 0, it => .ok ([], it)
  | room + 1, it =>
    if it = fin then .ok ([], it)
    else do
      let e ← subscript base it
      let (pn, it') ← fill base succ fin room (succ it e)
      return (e.phoneValue :: pn, it')

/-- `refill()` of the two visitors. -/
def Visitor.refill (base : List PhoneList) (room : ℕ) :
    Visitor → Except Stop (List UInt64 × Visitor)
  | .inverseRN it fin => do
    let (pn, it') ← fill base (fun _ e => e.next.toNat) fin room it
    return (pn, .inverseRN it' fin)
  | .row it fin => do
    let (pn, it') ← fill base (fun it _ => it + 1) fin room it
    return (pn, .row it' fin)

/-- `class Cursor`: the filled parts of `pn_` and `rn_` (so `size_` is their length) and
`pos_`. -/
structure Cursor where
  visitor : Visitor
  pn : List UInt64
  rn : List UInt64
  pos : ℕ

/-- `Cursor::prefetch`. -/
def Cursor.prefetch (data : Data) (prefetch : ℕ+) (v : Visitor) : Except Stop Cursor := do
  let (pn, v') ← v.refill data.pnColumn 8
  return ⟨v', pn, data.getRNs prefetch pn, 0⟩

/-- `Cursor::advance`. -/
def Cursor.advance (data : Data) (prefetch : ℕ+) (c : Cursor) : Except Stop Cursor :=
  if c.pos + 1 = c.pn.length then Cursor.prefetch data prefetch c.visitor
  else .ok { c with pos := c.pos + 1 }

/-- `std::lower_bound` in the index from position `i` on, by phone. -/
def lowerBound (index : List PhoneList) (i : ℕ) (value : PhoneList) : ℕ :=
  i + (index.drop i).findIdx fun e => decide (value.key ≤ e.key)

/-- `Data::inverseRNs`: the bounds are packed into `PhoneList`s before they are compared. -/
def Data.inverseRNs (data : Data) (prefetch : ℕ+) (fromRN toRN : UInt64) :
    Except Stop (Option Cursor) :=
  let rnLeft := lowerBound data.index 0 (PhoneList.pack fromRN 0)
  let rnRight := lowerBound data.index rnLeft (PhoneList.pack toRN 0)
  let pnBegin := (data.index[rnLeft]?.map PhoneList.node).getD MAXROWS
  let pnEnd := (data.index[rnRight]?.map PhoneList.node).getD MAXROWS
  if pnBegin ≠ pnEnd then
    some <$> Cursor.prefetch data prefetch (.inverseRN pnBegin pnEnd)
  else .ok none

/-- `Data::visitRows`. -/
def Data.visitRows (data : Data) (prefetch : ℕ+) : Except Stop (Option Cursor) :=
  if 0 < data.pnColumn.length then
    some <$> Cursor.prefetch data prefetch (.row 0 data.pnColumn.length)
  else .ok none

end PhoneMapping

/-! ## 2. The handle -/

/-- `class PhoneMapping`: what `data_` points to, and the cursor. -/
structure PhoneMapping where
  data : Option PhoneMapping.Data
  cursor : Option PhoneMapping.Cursor := none

namespace PhoneMapping

/-- `Builder::build()`. -/
def build (d : Data) : PhoneMapping := { data := some d.build }

/-- `data_->`. -/
def deref (db : PhoneMapping) : Except Stop Data :=
  match db.data with
  | some data => .ok data
  | none => .error (.undefined .nullRead)

/-- `cursor_->`. -/
def derefCursor (db : PhoneMapping) : Except Stop Cursor :=
  match db.cursor with
  | some c => .ok c
  | none => .error (.undefined .nullRead)

variable (prefetch : ℕ+)

def getRN (db : PhoneMapping) (pn : UInt64) : Except Stop UInt64 := do
  let data ← db.deref
  return data.getRN prefetch pn

def size (db : PhoneMapping) : Except Stop ℕ := do
  let data ← db.deref
  return data.pnColumn.length

def inverseRNs (db : PhoneMapping) (fromRN toRN : UInt64) : Except Stop PhoneMapping := do
  let data ← db.deref
  let c ← data.inverseRNs prefetch fromRN toRN
  return { db with cursor := c }

def visitRows (db : PhoneMapping) : Except Stop PhoneMapping := do
  let data ← db.deref
  let c ← data.visitRows prefetch
  return { db with cursor := c }

def hasRow (db : PhoneMapping) : Bool := db.cursor.isSome

def currentPN (db : PhoneMapping) : Except Stop UInt64 := do
  let c ← db.derefCursor
  subscript c.pn c.pos

def currentRN (db : PhoneMapping) : Except Stop UInt64 := do
  let c ← db.derefCursor
  subscript c.rn c.pos

/-- A cursor without rows is dropped. -/
def advance (db : PhoneMapping) : Except Stop PhoneMapping := do
  let c ← db.derefCursor
  let data ← db.deref
  let c' ← c.advance data prefetch
  return { db with cursor := if c'.pn.length ≠ 0 then some c' else none }

/-- `for (; db.hasRow(); db.advance()) ret.emplace_back(db.currentPN(), db.currentRN());`, for
at most `fuel` turns; `none` when they do not suffice. -/
def drain : ℕ → PhoneMapping → Except Stop (Option (List (UInt64 × UInt64)))
  | 0, _ => .ok none
  | fuel + 1, db =>
    if db.hasRow then do
      let pn ← db.currentPN
      let rn ← db.currentRN
      let db' ← db.advance prefetch
      let rest ← drain fuel db'
      return rest.map ((pn, rn) :: ·)
    else .ok (some [])

/-! ## 3. Filling a block -/

section Fill

variable {base : List PhoneList} {succ : ℕ → PhoneList → ℕ}

/-- How a visitor moves, seen from outside the column. -/
def stepOf (base : List PhoneList) (succ : ℕ → PhoneList → ℕ) (i : ℕ) : ℕ :=
  (base[i]?.map (succ i)).getD 0

/-- The visitor will visit exactly these positions: they are inside the column, and the end is
not one of them. -/
structure Visits (base : List PhoneList) (succ : ℕ → PhoneList → ℕ) (it : ℕ) (nodes : List ℕ)
    (fin : ℕ) : Prop where
  walks : Walks (stepOf base succ) it nodes fin
  fin_not_mem : fin ∉ nodes
  lt_length : ∀ i ∈ nodes, i < base.length

/-- The number at a position. -/
def phoneAt (base : List PhoneList) (i : ℕ) : UInt64 :=
  (base[i]?.map PhoneList.phoneValue).getD 0

/-- A block takes the first positions and leaves the rest. -/
theorem Visits.fill {nodes : List ℕ} {it fin : ℕ} (room : ℕ) (h : Visits base succ it nodes fin) :
    ∃ it', fill base succ fin room it = .ok ((nodes.take room).map (phoneAt base), it') ∧
      Visits base succ it' (nodes.drop room) fin := by
  induction room generalizing nodes it with
  | zero => exact ⟨it, rfl, h⟩
  | succ room ih =>
    cases nodes with
    | nil =>
      obtain rfl : it = fin := h.walks
      refine ⟨it, ?_, h⟩
      rw [PhoneMapping.fill, if_pos rfl]
      rfl
    | cons i nodes =>
      obtain ⟨rfl, hw⟩ := h.walks
      have hlt : it < base.length := h.lt_length it List.mem_cons_self
      have hne : it ≠ fin := fun e => h.fin_not_mem (e ▸ List.mem_cons_self)
      have hstep : stepOf base succ it = succ it base[it] := by simp [stepOf, hlt]
      have hphone : phoneAt base it = base[it].phoneValue := by simp [phoneAt, hlt]
      have hrest : Visits base succ (succ it base[it]) nodes fin :=
        ⟨hstep ▸ hw, fun hm => h.fin_not_mem (List.mem_cons_of_mem _ hm),
          fun j hj => h.lt_length j (List.mem_cons_of_mem _ hj)⟩
      obtain ⟨it', hfill, hv⟩ := ih hrest
      refine ⟨it', ?_, hv⟩
      rw [PhoneMapping.fill, if_neg hne, subscript_of_lt hlt]
      change (PhoneMapping.fill base succ fin room (succ it base[it]) >>= _) = _
      rw [hfill, List.take_succ_cons, List.map_cons, hphone]
      rfl

end Fill

/-- The positions a visitor still has to visit. -/
def Visitor.Ahead (base : List PhoneList) (nodes : List ℕ) : Visitor → Prop
  | .inverseRN it fin => Visits base (fun _ e => e.next.toNat) it nodes fin
  | .row it fin => Visits base (fun it _ => it + 1) it nodes fin

theorem Visitor.Ahead.refill {base : List PhoneList} {nodes : List ℕ} {v : Visitor} (room : ℕ)
    (h : v.Ahead base nodes) :
    ∃ v', v.refill base room = .ok ((nodes.take room).map (phoneAt base), v') ∧
      v'.Ahead base (nodes.drop room) := by
  cases v with
  | inverseRN it fin =>
    obtain ⟨it', hfill, hv⟩ := Visits.fill room h
    refine ⟨.inverseRN it' fin, ?_, hv⟩
    rw [Visitor.refill, hfill]
    rfl
  | row it fin =>
    obtain ⟨it', hfill, hv⟩ := Visits.fill room h
    refine ⟨.row it' fin, ?_, hv⟩
    rw [Visitor.refill, hfill]
    rfl

/-! ## 4. What a cursor still has to yield -/

/-- A row as the cursor reports it: the number in the column, looked up again. -/
def reported (data : Data) (pn : UInt64) : UInt64 × UInt64 := (pn, data.lookup pn)

/-- `rows` are the rows from the current one on: what is left of the block, then what the
visitor will bring.  There is a current row. -/
structure Pending (data : Data) (c : Cursor) (rows : List (UInt64 × UInt64)) : Prop where
  rn : c.rn = c.pn.map data.lookup
  pos : c.pos < c.pn.length
  rows : ∃ nodes, c.visitor.Ahead data.pnColumn nodes ∧
    rows = (c.pn.drop c.pos ++ nodes.map (phoneAt data.pnColumn)).map (reported data)

variable {prefetch} {data : Data}

/-- A fresh block: pending if there is anything to visit, empty otherwise. -/
theorem prefetch_pending {v : Visitor} {nodes : List ℕ} (h : v.Ahead data.pnColumn nodes) :
    ∃ c, Cursor.prefetch data prefetch v = .ok c ∧ (nodes = [] → c.pn = []) ∧
      (nodes ≠ [] →
        Pending data c (nodes.map fun i => reported data (phoneAt data.pnColumn i))) := by
  obtain ⟨v', hrefill, hv⟩ := h.refill 8
  refine ⟨⟨v', (nodes.take 8).map (phoneAt data.pnColumn),
    data.getRNs prefetch ((nodes.take 8).map (phoneAt data.pnColumn)), 0⟩, ?_, ?_, ?_⟩
  · rw [Cursor.prefetch, hrefill]
    rfl
  · rintro rfl
    rfl
  · intro hne
    refine ⟨getRNs_eq_map _ _ _, ?_, nodes.drop 8, hv, ?_⟩
    · have : 0 < nodes.length := List.length_pos_of_ne_nil hne
      simp [this]
    · rw [List.drop_zero, ← List.map_append, List.take_append_drop, List.map_map]
      rfl

/-- The current row is the first pending one. -/
theorem Pending.current {c : Cursor} {rows : List (UInt64 × UInt64)} (h : Pending data c rows) :
    ∃ pn rn rest, rows = (pn, rn) :: rest ∧ subscript c.pn c.pos = .ok pn ∧
      subscript c.rn c.pos = .ok rn := by
  obtain ⟨nodes, -, hrows⟩ := h.rows
  have hpos := h.pos
  have hpos' : c.pos < c.rn.length := by rwa [h.rn, List.length_map]
  have hcur : c.rn[c.pos] = data.lookup c.pn[c.pos] := by simp [h.rn]
  rw [List.drop_eq_getElem_cons h.pos, List.cons_append, List.map_cons] at hrows
  refine ⟨_, _, _, hrows, subscript_of_lt h.pos, ?_⟩
  rw [subscript_of_lt hpos', hcur]

/-- **The step.**  `advance` takes the first row off; after the last one there is no row. -/
theorem Pending.advance {c : Cursor} {r : UInt64 × UInt64} {rest : List (UInt64 × UInt64)}
    (h : Pending data c (r :: rest)) :
    ∃ c', c.advance data prefetch = .ok c' ∧ (rest = [] → c'.pn = []) ∧
      (rest ≠ [] → Pending data c' rest) := by
  obtain ⟨nodes, hv, hrows⟩ := h.rows
  rw [List.drop_eq_getElem_cons h.pos, List.cons_append, List.map_cons, List.cons.injEq] at hrows
  obtain ⟨-, hrest⟩ := hrows
  by_cases hlast : c.pos + 1 = c.pn.length
  · -- the block is used up
    rw [hlast, List.drop_length, List.nil_append, List.map_map] at hrest
    obtain ⟨c', hpre, hnil, hpend⟩ := @prefetch_pending prefetch data _ _ hv
    have hempty : rest = [] ↔ nodes = [] := by rw [hrest, List.map_eq_nil_iff]
    refine ⟨c', ?_, fun e => hnil (hempty.mp e), fun e => ?_⟩
    · rw [Cursor.advance, if_pos hlast, hpre]
    · rw [hrest]
      exact hpend fun e' => e (hempty.mpr e')
  · have hlt : c.pos + 1 < c.pn.length := by
      have := h.pos
      omega
    refine ⟨{ c with pos := c.pos + 1 }, ?_, ?_, fun _ => ⟨h.rn, hlt, nodes, hv, hrest⟩⟩
    · rw [Cursor.advance, if_neg hlast]
    · intro e
      rw [e, List.drop_eq_getElem_cons hlt, List.cons_append, List.map_cons] at hrest
      cases hrest

/-! ## 5. The run of a handle -/

/-- The handle still has exactly these rows to yield; without rows it has no cursor. -/
def Yields (data : Data) (db : PhoneMapping) (rows : List (UInt64 × UInt64)) : Prop :=
  db.data = some data ∧
    ((rows = [] ∧ db.cursor = none) ∨ ∃ c, db.cursor = some c ∧ Pending data c rows)

theorem Yields.hasRow_nil {db : PhoneMapping} (h : Yields data db []) : db.hasRow = false := by
  rcases h.2 with ⟨-, hc⟩ | ⟨c, -, hp⟩
  · rw [hasRow, hc]
    rfl
  · obtain ⟨_, _, _, hrows, -⟩ := hp.current
    cases hrows

/-- **The step.**  The current row is the first one, and `advance` leaves the rest. -/
theorem Yields.step {db : PhoneMapping} {r : UInt64 × UInt64} {rest : List (UInt64 × UInt64)}
    (h : Yields data db (r :: rest)) :
    db.hasRow = true ∧ db.currentPN = .ok r.1 ∧ db.currentRN = .ok r.2 ∧
      ∃ db', db.advance prefetch = .ok db' ∧ Yields data db' rest := by
  obtain ⟨hdata, ⟨h, -⟩ | ⟨c, hc, hp⟩⟩ := h
  · cases h
  obtain ⟨pn, rn, rest', hrows, hpn, hrn⟩ := hp.current
  obtain ⟨rfl, rfl⟩ := List.cons.inj hrows
  obtain ⟨c', hadv, hnil, hpend⟩ := @Pending.advance prefetch data c _ _ hp
  refine ⟨by rw [hasRow, hc]; rfl, ?_, ?_, ?_⟩
  · rw [currentPN, derefCursor, hc]
    exact hpn
  · rw [currentRN, derefCursor, hc]
    exact hrn
  · simp only [PhoneMapping.advance, derefCursor, hc, deref, hdata, bind, Except.bind, hadv]
    refine ⟨_, rfl, rfl, ?_⟩
    by_cases hrest : rest = []
    · exact Or.inl ⟨hrest, by simp [hnil hrest]⟩
    · have hpos := (hpend hrest).pos
      exact Or.inr ⟨c', by rw [if_pos (by omega)], hpend hrest⟩

/-- **The run.**  Draining yields the rows in order, without an out-of-bounds read, and ends
as soon as there is more than one turn for each row. -/
theorem Yields.drain_eq {rows : List (UInt64 × UInt64)} {db : PhoneMapping} (fuel : ℕ)
    (h : Yields data db rows) :
    drain prefetch fuel db = .ok (if rows.length < fuel then some rows else none) := by
  induction fuel generalizing rows db with
  | zero => rfl
  | succ fuel ih =>
    cases rows with
    | nil =>
      rw [PhoneMapping.drain, if_neg (by simp [h.hasRow_nil])]
      simp
    | cons r rest =>
      obtain ⟨hhas, hpn, hrn, db', hadv, hrest⟩ := @Yields.step prefetch data db r rest h
      rw [PhoneMapping.drain, if_pos hhas, hpn, hrn, hadv]
      change (PhoneMapping.drain prefetch fuel db' >>= _) = _
      rw [ih hrest]
      simp only [List.length_cons, Nat.add_lt_add_iff_right]
      split <;> rfl

theorem Yields.drain {rows : List (UInt64 × UInt64)} {db : PhoneMapping} {fuel : ℕ}
    (h : Yields data db rows) (hf : rows.length < fuel) :
    drain prefetch fuel db = .ok (some rows) := by
  rw [h.drain_eq fuel, if_pos hf]

/-- A handle whose visitor was just created yields what the visitor will visit. -/
theorem yields_of_ahead {v : Visitor} {nodes : List ℕ} (h : v.Ahead data.pnColumn nodes)
    (hne : nodes ≠ []) :
    ∃ c, Cursor.prefetch data prefetch v = .ok c ∧ Yields data ⟨some data, some c⟩
      (nodes.map fun i => reported data (phoneAt data.pnColumn i)) := by
  obtain ⟨c, hpre, -, hpend⟩ := @prefetch_pending prefetch data _ _ h
  exact ⟨c, hpre, rfl, Or.inr ⟨c, rfl, hpend hne⟩⟩

end PhoneMapping

end CallFwd
