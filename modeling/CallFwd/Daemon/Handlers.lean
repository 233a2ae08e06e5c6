/-
# The requests: `/target`, `/reverse` and INVITE

Every request first asks `PhoneMapping::isAvailable()`, which is TWO loads, and is refused with
503 where US or CA is null.  `/target` then tests the nine optional tables, one load each, and
only afterwards takes the pointers: US, CA, and those it found available, once each, holding each
one for a whole batch.  INVITE tests nothing more; the access list it reads may be null, and
`isCallAllowed` says so.

The handlers are `Reader`s over the globals, step by step as the source loads them.
`Query.serve_guarded` is what the interleaving needs to know of them: no table is taken twice,
none that was found null, and no null one is used.
-/
import CallFwd.Lib.Reader
import CallFwd.PhoneMapping.Cursor
import CallFwd.Control.Load

namespace CallFwd

open Lib Lib.Reader

/-! ## 1. Loads -/

/-- `X::isAvailable()` of a table with one pointer. -/
def isAvailable (t : Table) : Reader Dataset Bool := .test t .done

/-- `X::getX()`: the pointer, protected from here on. -/
def get (t : Table) : Reader Dataset (Option (Dataset t)) := .load t .done

/-- `data_->`. -/
def deref {t : Table} : Option (Dataset t) → Reader Dataset (Dataset t)
  | some d => .done d
  | none => .fault

/-- `X::getX().getXs(..)`. -/
def getTable (t : Table) : Reader Dataset (Dataset t) := do
  deref (← get t)

/-- `if (available) X::getX().getXs(..)`. -/
def getIf (available : Bool) (t : Table) : Reader Dataset (Option (Dataset t)) :=
  if available then do return some (← getTable t) else return none

/-- `PhoneMapping::isAvailable()`: `!!mappingUS.load() && !!mappingCA.load()`. -/
def PhoneMapping.isAvailable : Reader Dataset Bool := do
  if ← CallFwd.isAvailable .us then CallFwd.isAvailable .ca else return false

section Run

variable {g : Globals} {t : Table}

theorem run_isAvailable : (isAvailable t).run g = some (g t).isSome := rfl

theorem run_getTable {d : Dataset t} (h : g t = some d) : (getTable t).run g = some d := by
  change (deref (g t)).run g = some d
  rw [h]
  rfl

/-- A table that is taken when it is there. -/
theorem run_getIf : (getIf (g t).isSome t).run g = some (g t) := by
  cases h : g t with
  | none => rfl
  | some d =>
    rw [getIf, Option.isSome_some, if_pos rfl, run_bind, run_getTable h]
    rfl

end Run

/-! ## 2. `TargetHandler` -/

/-- What `onQueryComplete` has looked up when it starts to print; `none` stands for a table that
was not available. -/
structure TargetReport where
  pn : List UInt64
  us_rn : List UInt64
  ca_rn : List UInt64
  us_dnc : Option (List UInt64)
  us_dno : Option (List UInt64)
  us_tollfree : Option (List UInt64)
  us_lerg : Option (List LergData)
  us_youmail : Option (List YoumailData)
  us_geo : Option (List GeoData)
  us_ftc : Option (List FtcData)
  us_f404 : Option (List FailureData)
  us_f606 : Option (List FailureData)
deriving DecidableEq, Repr

namespace TargetHandler

/-- `lerg_search_key[i]`: the routing number, or the number where there is none. -/
def lergSearchKey (pn us_rn ca_rn : UInt64) : UInt64 :=
  let rn := if us_rn = PhoneNumber.NONE then ca_rn else us_rn
  if rn ≠ PhoneNumber.NONE then rn else pn

/-- `onQueryComplete()`, up to the text it prints.  `prefetch` is the flag of each table; US and CA
share one. -/
def onQueryComplete (prefetch : Table → ℕ+) (pn : List UInt64) : Reader Dataset TargetReport := do
  let dncAvailable ← isAvailable .dnc
  let dnoAvailable ← isAvailable .dno
  let tollfreeAvailable ← isAvailable .tollFree
  let lergAvailable ← isAvailable .lerg
  let youmailAvailable ← isAvailable .youmail
  let geoAvailable ← isAvailable .geo
  let ftcAvailable ← isAvailable .ftc
  let f404Available ← isAvailable .f404
  let f606Available ← isAvailable .f606
  let us ← getTable .us
  let ca ← getTable .ca
  let us_rn := us.getRNs (prefetch .us) pn
  let ca_rn := ca.getRNs (prefetch .us) pn
  let dnc ← getIf dncAvailable .dnc
  let dno ← getIf dnoAvailable .dno
  let tollfree ← getIf tollfreeAvailable .tollFree
  let lerg ← getIf lergAvailable .lerg
  let youmail ← getIf youmailAvailable .youmail
  let geo ← getIf geoAvailable .geo
  let ftc ← getIf ftcAvailable .ftc
  let f404 ← getIf f404Available .f404
  let f606 ← getIf f606Available .f606
  let key := List.zipWith3 lergSearchKey pn us_rn ca_rn
  -- the output arrays come from `resize(N)`, which zeroes them
  let N := pn.length
  return {
    pn := pn
    us_rn := us_rn
    ca_rn := ca_rn
    us_dnc := dnc.map fun d => d.getDNCs (prefetch .dnc) pn (.replicate N 0)
    us_dno := dno.map fun d => d.getDNOs (prefetch .dno) pn (.replicate N 0)
    us_tollfree := tollfree.map fun d => d.getTollFrees (prefetch .tollFree) pn (.replicate N 0)
    us_lerg := lerg.map fun d =>
      d.getLergs (prefetch .lerg) key (.replicate N ⟨0, [], [], [], [], [], [], []⟩)
    us_youmail := youmail.map fun d =>
      d.getYoumails (prefetch .youmail) pn (.replicate N ⟨0, [], [], [], []⟩)
    us_geo := geo.map fun d =>
      d.getGeos (prefetch .geo) pn (.replicate N ⟨0, [], [], [], [], [], []⟩)
    us_ftc := ftc.map fun d => d.getFtcs (prefetch .ftc) pn (.replicate N ⟨0, [], [], []⟩)
    us_f404 := f404.map fun d => d.getFailures (prefetch .f404) pn (.replicate N ⟨0, [], []⟩)
    us_f606 := f606.map fun d => d.getFailures (prefetch .f606) pn (.replicate N ⟨0, [], []⟩) }

end TargetHandler

/-! ## 3. `ReverseHandler` -/

namespace ReverseHandler

/-- The rows one `inverseRNs` and its `sendBody` print; a cursor that is not used up after all
rows of the table gives `none`. -/
def sendBody (prefetch : ℕ+) (data : PhoneMapping.Data) (range : UInt64 × UInt64) :
    Except Stop (Option (List (UInt64 × UInt64))) := do
  let db ← PhoneMapping.inverseRNs prefetch { data := some data } range.1 range.2
  PhoneMapping.drain prefetch (data.pnColumn.length + 1) db

/-- `onRequest` with its `query_`, up to the text it prints: for each range the rows of US and
those of CA. -/
def onRequest (prefetch : Table → ℕ+) (query : List (UInt64 × UInt64)) :
    Reader Dataset (List (Except Stop (Option (List (UInt64 × UInt64))))) := do
  let us ← getTable .us
  let ca ← getTable .ca
  return query.flatMap fun range =>
    [sendBody (prefetch .us) us range, sendBody (prefetch .us) ca range]

end ReverseHandler

/-! ## 4. `SIPHandler` -/

/-- What a request is answered with. -/
inductive Response
  | unavailable
  | target (report : TargetReport)
  | reverse (rows : List (Except Stop (Option (List (UInt64 × UInt64)))))
  | refused (status : ℕ)
  | moved (pn rn : UInt64)

namespace SIPHandler

/-- `if (pn != PhoneNumber::NONE) rn = PhoneMapping::getUS().getRN(pn);` -/
def usRN (prefetch : ℕ+) (pn : UInt64) : Reader Dataset UInt64 :=
  if pn ≠ PhoneNumber.NONE then do return PhoneMapping.Data.getRN (← getTable .us) prefetch pn
  else return PhoneNumber.NONE

/-- `if (rn == PhoneNumber::NONE) rn = PhoneMapping::getCA().getRN(pn);` -/
def caRN (prefetch : ℕ+) (pn rn : UInt64) : Reader Dataset UInt64 :=
  if rn = PhoneNumber.NONE then do return PhoneMapping.Data.getRN (← getTable .ca) prefetch pn
  else return rn

/-- `handleInvite()`; `pn` is what `fromString` makes of the user part. -/
def handleInvite (prefetch : Table → ℕ+) (now : ℤ) (consume : ACL.Rule → Bool)
    (peer : ACL.IPAddress) (pn : UInt64) : Reader Dataset Response := do
  let acl ← get .acl
  let status := ACL.isCallAllowed now consume acl peer
  if status = 429 ∨ status = 401 then return .refused status
  else do
    let rn ← usRN (prefetch .us) pn
    let rn ← caRN (prefetch .us) pn rn
    return .moved pn rn

end SIPHandler

/-! ## 5. Requests -/

/-- A request whose table loads depend on nothing but these. -/
inductive Query
  | target (pn : List UInt64)
  | reverse (query : List (UInt64 × UInt64))
  | invite (now : ℤ) (consume : ACL.Rule → Bool) (peer : ACL.IPAddress) (pn : UInt64)

/-- The handler of a request. -/
def Query.handle (prefetch : Table → ℕ+) : Query → Reader Dataset Response
  | .target pn => do return .target (← TargetHandler.onQueryComplete prefetch pn)
  | .reverse query => do return .reverse (← ReverseHandler.onRequest prefetch query)
  | .invite now consume peer pn => SIPHandler.handleInvite prefetch now consume peer pn

/-- `makeHandler`, and the head of `onDataAvailable`: 503 before anything else. -/
def Query.serve (prefetch : Table → ℕ+) (q : Query) : Reader Dataset Response := do
  if ← PhoneMapping.isAvailable then q.handle prefetch else return .unavailable

/-! ## 6. What the requests keep to -/

section Rules

variable {t : Table} {κ : Table → Known}

theorem guarded_isAvailable {Q : Bool → (Table → Known) → Prop} (fresh : κ t = .unknown)
    (h : ∀ b, Q b (Function.update κ t (if b then .present else .spent))) :
    (isAvailable t).Guarded Q κ :=
  ⟨fresh, h⟩

/-- A table that was found available may be taken and used. -/
theorem guarded_getTable {Q : Dataset t → (Table → Known) → Prop} (found : κ t = .present)
    (h : ∀ d, Q d (Function.update κ t .spent)) : (getTable t).Guarded Q κ := by
  refine (guarded_bind _ _ _).mpr ⟨by rw [found]; simp, ?_⟩
  intro o ho
  obtain ⟨d, rfl⟩ := Option.isSome_iff_exists.mp (ho found)
  exact h d

/-- A table is taken if its own test found it available. -/
theorem guarded_getIf {Q : Option (Dataset t) → (Table → Known) → Prop} {available : Bool}
    (tested : κ t = if available then .present else .spent)
    (h : ∀ o, Q o (Function.update κ t .spent)) : (getIf available t).Guarded Q κ := by
  cases available with
  | true => exact (guarded_bind _ _ _).mpr (guarded_getTable tested fun d => h (some d))
  | false =>
    have same : Function.update κ t .spent = κ := Function.update_eq_self_iff.mpr tested.symm
    have := h none
    rwa [same] at this

end Rules

/-- US and CA were found available, and nothing else was looked at. -/
def usAndCa : Table → Known
  | .us | .ca => .present
  | _ => .unknown

/-- Nine tests, and then the pointers: each rule finds what is known of its table by computing
through the updates of the rules before it. -/
theorem TargetHandler.onQueryComplete_guarded (prefetch : Table → ℕ+) (pn : List UInt64) :
    (TargetHandler.onQueryComplete prefetch pn).Guarded (fun _ _ => True) usAndCa := by
  unfold TargetHandler.onQueryComplete
  simp only [guarded_bind]
  refine guarded_isAvailable rfl fun dncAvailable => ?_
  refine guarded_isAvailable rfl fun dnoAvailable => ?_
  refine guarded_isAvailable rfl fun tollfreeAvailable => ?_
  refine guarded_isAvailable rfl fun lergAvailable => ?_
  refine guarded_isAvailable rfl fun youmailAvailable => ?_
  refine guarded_isAvailable rfl fun geoAvailable => ?_
  refine guarded_isAvailable rfl fun ftcAvailable => ?_
  refine guarded_isAvailable rfl fun f404Available => ?_
  refine guarded_isAvailable rfl fun f606Available => ?_
  refine guarded_getTable rfl fun us => guarded_getTable rfl fun ca => ?_
  refine guarded_getIf rfl fun dnc => guarded_getIf rfl fun dno => ?_
  refine guarded_getIf rfl fun tollfree => guarded_getIf rfl fun lerg => ?_
  refine guarded_getIf rfl fun youmail => guarded_getIf rfl fun geo => ?_
  refine guarded_getIf rfl fun ftc => guarded_getIf rfl fun f404 => ?_
  exact guarded_getIf rfl fun f606 => trivial

theorem ReverseHandler.onRequest_guarded (prefetch : Table → ℕ+)
    (query : List (UInt64 × UInt64)) :
    (ReverseHandler.onRequest prefetch query).Guarded (fun _ _ => True) usAndCa := by
  unfold ReverseHandler.onRequest
  simp only [guarded_bind]
  exact guarded_getTable rfl fun us => guarded_getTable rfl fun ca => trivial

theorem SIPHandler.usRN_guarded {prefetch : ℕ+} {pn : UInt64} {κ : Table → Known}
    {Q : UInt64 → (Table → Known) → Prop} (found : κ .us = .present)
    (h : ∀ rn κ', κ' .ca = κ .ca → Q rn κ') : (SIPHandler.usRN prefetch pn).Guarded Q κ := by
  unfold SIPHandler.usRN
  split
  · exact (guarded_bind _ _ _).mpr (guarded_getTable found fun us => h _ _ rfl)
  · exact h _ _ rfl

theorem SIPHandler.caRN_guarded {prefetch : ℕ+} {pn rn : UInt64} {κ : Table → Known}
    {Q : UInt64 → (Table → Known) → Prop} (found : κ .ca = .present)
    (h : ∀ rn κ', Q rn κ') : (SIPHandler.caRN prefetch pn rn).Guarded Q κ := by
  unfold SIPHandler.caRN
  split
  · exact (guarded_bind _ _ _).mpr (guarded_getTable found fun ca => h _ _)
  · exact h _ _

/-- The access list is loaded without a test and may be null: `isCallAllowed` looks. -/
theorem SIPHandler.handleInvite_guarded (prefetch : Table → ℕ+) (now : ℤ)
    (consume : ACL.Rule → Bool) (peer : ACL.IPAddress) (pn : UInt64) :
    (SIPHandler.handleInvite prefetch now consume peer pn).Guarded (fun _ _ => True) usAndCa := by
  unfold SIPHandler.handleInvite
  rw [guarded_bind]
  refine ⟨by simp [usAndCa], ?_⟩
  intro acl _
  change Guarded _ (if _ then _ else _) _
  split
  · trivial
  · simp only [guarded_bind]
    refine SIPHandler.usRN_guarded rfl ?_
    intro rn κ hca
    exact SIPHandler.caRN_guarded hca fun _ _ => trivial

theorem Query.handle_guarded (prefetch : Table → ℕ+) (q : Query) :
    (q.handle prefetch).Guarded (fun _ _ => True) usAndCa := by
  cases q with
  | target pn =>
    exact (guarded_bind _ _ _).mpr (TargetHandler.onQueryComplete_guarded prefetch pn)
  | reverse query =>
    exact (guarded_bind _ _ _).mpr (ReverseHandler.onRequest_guarded prefetch query)
  | invite now consume peer pn =>
    exact SIPHandler.handleInvite_guarded prefetch now consume peer pn

/-- 503, or a handler that knows US and CA to be there. -/
theorem guarded_ifAvailable {α : Type} {r refusal : Reader Dataset α}
    (hr : r.Guarded (fun _ _ => True) usAndCa)
    (hrefusal : ∀ κ, refusal.Guarded (fun _ _ => True) κ) :
    (PhoneMapping.isAvailable >>= fun available => if available = true then r else refusal).Guarded
      (fun _ _ => True) fun _ => .unknown := by
  unfold PhoneMapping.isAvailable
  simp only [guarded_bind]
  refine guarded_isAvailable rfl fun us => ?_
  cases us with
  | false => exact hrefusal _
  | true =>
    refine guarded_isAvailable rfl fun ca => ?_
    cases ca with
    | false => exact hrefusal _
    | true =>
      have known : Function.update (Function.update (fun _ => .unknown) Table.us .present)
          Table.ca .present = usAndCa := by
        funext t
        cases t <;> rfl
      simpa only [if_true, known] using hr

/-- **Every request is careful**, whatever it asks for. -/
theorem Query.serve_guarded (prefetch : Table → ℕ+) (q : Query) :
    (q.serve prefetch).Guarded (fun _ _ => True) fun _ => .unknown :=
  guarded_ifAvailable (Query.handle_guarded prefetch q) fun _ => trivial

end CallFwd
