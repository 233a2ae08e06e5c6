/-
# The daemon, the tool and the links

The daemon keeps nothing over a restart.  What brings its tables back are the names the tool leaves in
the file system, one for each database, and `callfwd-reload.service` runs the tool for each of them.
So a name has to stand for what was loaded last, whatever happens in between.

A step here is one of the daemon, of a run of the tool, or of somebody else.  Runs for several
databases go on at the same time, and each is cut in three: it opens its file and sends, it is
answered, and it makes its link.  `Sound` is the invariant and `sound_step` the step.  A run that gets
no answer waits until it is killed; one that is killed between an 'S' and its link leaves the two
apart, and is no step here.
-/
import CallFwd.Ctl.Client

namespace CallFwd.Ctl

open Lib

/-! ## 1. The machine -/

/-- How far a run of the tool is. -/
inductive Phase
  | idle
  | asked (c : Choice) (r : Request)
  | answered (c : Choice) (bytes : List Char)

/-- The file a run has chosen. -/
def Phase.chosen : Phase → Option Text
  | .idle => none
  | .asked c _ | .answered c _ => some c.path

/-- The files, the daemon, and a run of the tool for each service.  `ledger` is a ghost: what was
acknowledged since the daemon has started. -/
structure Machine (ι : Type) where
  files : FileSystem
  globals : Globals
  ledger : Ledger
  phase : ι → Phase

def Machine.start {ι : Type} (files : FileSystem) : Machine ι :=
  ⟨files, .initial, .empty, fun _ => .idle⟩

/-- No two services are for one table, or leave one link. -/
structure Separate {ι : Type} (services : ι → Service) : Prop where
  target : ∀ i j, (services i).sub.target = (services j).sub.target → i = j
  db : ∀ i j, (services i).db = (services j).db → i = j

section Steps

variable {ι : Type} [DecidableEq ι] (host : Host) (tools : Tools) (services : ι → Service)

/-- What may stand behind the name of a service: a file of the same kind, and none of the names. -/
structure Candidate (fs : FileSystem) (i : ι) (path : Text) : Prop where
  file : ∃ content, fs path = some (.file content)
  outside : ∀ j, path ≠ (services j).db
  kind : isArchive path = isArchive (services i).db

/-- The name of a service: unused, a file, or a link straight to a file. -/
def Settled (fs : FileSystem) (i : ι) : Prop :=
  fs (services i).db = none ∨ (∃ content, fs (services i).db = some (.file content)) ∨
    ∃ path, fs (services i).db = some (.symlink path) ∧ Candidate services fs i path

/-- A choice of the tool, if the pattern matches candidates only. -/
def Admits (fs : FileSystem) (i : ι) (c : Choice) : Prop :=
  (c.path = (services i).db ∧ c.link_to = none) ∨
    (Candidate services fs i c.path ∧ c.link_to = some (services i).db)

end Steps

/-! ## 2. Names over steps -/

section Names

variable {ι : Type} {tools : Tools} {services : ι → Service} {fs fs' : FileSystem} {i : ι}
  {path content : Text}

theorem read_of_file (h : fs path = some (.file content)) (links : ℕ) :
    fs.read links path = some content := by
  unfold FileSystem.read
  rw [h]

theorem read_of_symlink {target : Text} (h : fs path = some (.symlink target)) (links : ℕ) :
    fs.read (links + 1) path = fs.read links target := by
  conv_lhs => unfold FileSystem.read
  rw [h]

theorem read_of_none (h : fs path = none) (links : ℕ) : fs.read links path = none := by
  unfold FileSystem.read
  rw [h]

/-- A link straight to a file of its kind opens as the file. -/
theorem Candidate.open_eq (h : Candidate services fs i path)
    (hlink : fs (services i).db = some (.symlink path)) :
    tools.open fs (services i).db = tools.open fs path := by
  obtain ⟨content, hfile⟩ := h.file
  have hdb : fs.read MAXSYMLINKS (services i).db = some content :=
    (read_of_symlink hlink 39).trans (read_of_file hfile 39)
  rw [Tools.open, Tools.open, hdb, read_of_file hfile, h.kind]

theorem Candidate.congr (h : Candidate services fs i path) (heq : fs' path = fs path) :
    Candidate services fs' i path :=
  ⟨heq ▸ h.file, h.outside, h.kind⟩

theorem Candidate.open_congr (h : Candidate services fs i path) (heq : fs' path = fs path) :
    tools.open fs' path = tools.open fs path := by
  obtain ⟨content, hfile⟩ := h.file
  rw [Tools.open, Tools.open, read_of_file hfile, read_of_file (heq.trans hfile)]

/-- Another file system that has the name of a service where it was. -/
structure Keeps (services : ι → Service) (fs fs' : FileSystem) (i : ι) : Prop where
  db : fs' (services i).db = fs (services i).db
  behind : ∀ p, fs (services i).db = some (.symlink p) → fs' p = fs p

theorem Settled.keeps (h : Settled services fs i) (hkeep : Keeps services fs fs' i) :
    Settled services fs' i := by
  unfold Settled
  rw [hkeep.db]
  rcases h with hnone | hfile | ⟨path, hlink, hcand⟩
  · exact .inl hnone
  · exact .inr (.inl hfile)
  · exact .inr (.inr ⟨path, hlink, hcand.congr (hkeep.behind path hlink)⟩)

theorem Settled.open_congr (h : Settled services fs i) (hkeep : Keeps services fs fs' i) :
    tools.open fs' (services i).db = tools.open fs (services i).db := by
  rcases h with hnone | ⟨content, hfile⟩ | ⟨path, hlink, hcand⟩
  · rw [Tools.open, Tools.open, read_of_none hnone, read_of_none (hkeep.db.trans hnone)]
  · rw [Tools.open, Tools.open, read_of_file hfile, read_of_file (hkeep.db.trans hfile)]
  · have heq := hkeep.behind path hlink
    rw [hcand.open_eq hlink, (hcand.congr heq).open_eq (hkeep.db.trans hlink),
      hcand.open_congr heq]

/-- `relink` never meets a name that is taken: a settled name leads somewhere if it is there. -/
theorem Settled.relink_eq (h : Settled services fs i) (path : Text) :
    relink fs path (services i).db =
      Function.update fs (services i).db (some (.symlink path)) := by
  have hexists : fs.pathExists (services i).db = (fs (services i).db).isSome := by
    unfold FileSystem.pathExists
    rcases h with hnone | ⟨content, hfile⟩ | ⟨target, hlink, hcand⟩
    · rw [read_of_none hnone, hnone]
      rfl
    · rw [read_of_file hfile, hfile]
      rfl
    · obtain ⟨content, hfile⟩ := hcand.file
      have hread : fs.read MAXSYMLINKS (services i).db = some content :=
        (read_of_symlink hlink 39).trans (read_of_file hfile 39)
      rw [hread, hlink]
      rfl
  simp only [relink, hexists]
  by_cases hsome : (fs (services i).db).isSome = true
  · rw [if_pos hsome, Function.update_self, Function.update_idem]
    rfl
  · rw [if_neg hsome, if_neg hsome]

end Names

/-! ## 3. What a name stands for -/

/-- A load that was acknowledged is one of what was opened. -/
structure LoadOf (host : Host) (sub : Subcommand) (o : Opened) (a : Acknowledged) : Prop where
  asks : sub.Asks host o a.job
  content : a.content = o.content

/-- What is loaded, if anything is, is what the name opens as. -/
def Stands (host : Host) (tools : Tools) (sub : Subcommand) (fs : FileSystem) (path : Text)
    (entry : Option Acknowledged) : Prop :=
  ∀ a, entry = some a → ∃ o, tools.open fs path = some o ∧ LoadOf host sub o a

section Invariant

variable {ι : Type} [DecidableEq ι] (host : Host) (tools : Tools) (services : ι → Service)

/-- Between its answer and its link a run that was answered 'S' has the chosen file stand for what
is loaded, and no longer the name. -/
def Phase.Fits (fs : FileSystem) (ledger : Ledger) (i : ι) : Phase → Prop
  | .idle => Stands host tools (services i).sub fs (services i).db (ledger (services i).sub.target)
  | .asked c r => Admits services fs i c ∧
      Stands host tools (services i).sub fs (services i).db (ledger (services i).sub.target) ∧
      ∃ o, tools.open fs c.path = some o ∧ (services i).sub.Sends c.path o r
  | .answered c bytes => Admits services fs i c ∧
      Stands host tools (services i).sub fs (if bytes = ['S'] then c.path else (services i).db)
        (ledger (services i).sub.target)

/-- The invariant of the machine. -/
structure Sound (d : Machine ι) : Prop where
  represents : Represents d.globals d.ledger
  settled : ∀ i, Settled services d.files i
  fits : ∀ i, (d.phase i).Fits host tools services d.files d.ledger i

end Invariant

section Frame

variable {ι : Type} {host : Host} {tools : Tools} {services : ι → Service} {fs fs' : FileSystem}
  {ledger ledger' : Ledger} {i : ι}

theorem Admits.keeps {c : Choice} (h : Admits services fs i c) (heq : fs' c.path = fs c.path) :
    Admits services fs' i c := by
  rcases h with hself | ⟨hcand, hlink⟩
  · exact .inl hself
  · exact .inr ⟨hcand.congr heq, hlink⟩

theorem Admits.open_congr {c : Choice} (h : Admits services fs i c)
    (hsettled : Settled services fs i) (hkeep : Keeps services fs fs' i)
    (heq : fs' c.path = fs c.path) : tools.open fs' c.path = tools.open fs c.path := by
  rcases h with ⟨hself, -⟩ | ⟨hcand, -⟩
  · rw [hself]
    exact hsettled.open_congr hkeep
  · exact hcand.open_congr heq

/-- **A step of others**: the files a service uses and its table are as before. -/
theorem Phase.Fits.frame {ph : Phase} (h : ph.Fits host tools services fs ledger i)
    (hsettled : Settled services fs i) (hkeep : Keeps services fs fs' i)
    (hchosen : ∀ p, ph.chosen = some p → fs' p = fs p)
    (hledger : ledger' (services i).sub.target = ledger (services i).sub.target) :
    ph.Fits host tools services fs' ledger' i := by
  have hdb : Stands host tools (services i).sub fs (services i).db
      (ledger (services i).sub.target) →
      Stands host tools (services i).sub fs' (services i).db
        (ledger' (services i).sub.target) := by
    unfold Stands
    rw [hsettled.open_congr hkeep, hledger]
    exact id
  cases ph with
  | idle => exact hdb h
  | asked c r =>
    obtain ⟨hadm, hstands, o, hopen, hsends⟩ := h
    have heq := hchosen c.path rfl
    exact ⟨hadm.keeps heq, hdb hstands, o,
      (hadm.open_congr hsettled hkeep heq).trans hopen, hsends⟩
  | answered c bytes =>
    obtain ⟨hadm, hstands⟩ := h
    have heq := hchosen c.path rfl
    refine ⟨hadm.keeps heq, ?_⟩
    by_cases hS : bytes = ['S']
    · rw [if_pos hS] at hstands ⊢
      unfold Stands at hstands ⊢
      rw [hadm.open_congr hsettled hkeep heq, hledger]
      exact hstands
    · rw [if_neg hS] at hstands ⊢
      exact hdb hstands

end Frame

/-! ## 4. The step -/

section Step

variable {ι : Type} {host : Host} {tools : Tools} {services : ι → Service}
  {d d' : Machine ι} {fs : FileSystem} {i : ι}

theorem Keeps.refl (fs : FileSystem) (i : ι) : Keeps services fs fs i := ⟨rfl, fun _ _ => rfl⟩

/-- A link leads to a candidate. -/
theorem Settled.candidate (h : Settled services fs i) {p : Text}
    (hlink : fs (services i).db = some (.symlink p)) : Candidate services fs i p := by
  rcases h with hnone | ⟨content, hfile⟩ | ⟨q, hq, hcand⟩
  · cases hlink.symm.trans hnone
  · cases hlink.symm.trans hfile
  · cases hlink.symm.trans hq
    exact hcand

/-- What a run leaves of the files: nothing new, or its link. -/
theorem Admits.close_cases {c : Choice} (h : Admits services fs i c)
    (hsettled : Settled services fs i) (bytes : List Char) :
    (c.close fs bytes = fs ∧ (if bytes = ['S'] then c.path else (services i).db) = (services i).db) ∨
    (bytes = ['S'] ∧ Candidate services fs i c.path ∧
      c.close fs bytes = Function.update fs (services i).db (some (.symlink c.path))) := by
  by_cases hS : bytes = ['S']
  · rcases h with ⟨hself, hlink⟩ | ⟨hcand, hlink⟩
    · refine .inl ⟨?_, ?_⟩
      · rw [Choice.close, hlink]
      · rw [if_pos hS, hself]
    · refine .inr ⟨hS, hcand, ?_⟩
      rw [Choice.close, hlink]
      exact (if_pos hS).trans (hsettled.relink_eq c.path)
  · refine .inl ⟨?_, if_neg hS⟩
    unfold Choice.close
    split
    · exact if_neg hS
    · rfl

/-- A new link at the name of one service is not in the way of another. -/
theorem Settled.keeps_of_update {j : ι} (hsep : Separate services) (h : Settled services fs j)
    (hne : j ≠ i) (node : Option Node) :
    Keeps services fs (Function.update fs (services i).db node) j where
  db := Function.update_of_ne (fun heq => hne (hsep.db j i heq)) _ _
  behind _ hlink := Function.update_of_ne ((h.candidate hlink).outside i) _ _

theorem Phase.Fits.chosen_ne {j : ι} {ledger : Ledger} {ph : Phase} {p : Text}
    (hsep : Separate services) (h : ph.Fits host tools services fs ledger j) (hne : j ≠ i)
    (hp : ph.chosen = some p) : p ≠ (services i).db := by
  have hadmits : ∀ c, Admits services fs j c → c.path ≠ (services i).db := by
    rintro c (⟨hself, -⟩ | ⟨hcand, -⟩)
    · rw [hself]
      exact fun heq => hne (hsep.db j i heq)
    · exact hcand.outside i
  cases ph with
  | idle => cases hp
  | asked c r =>
    cases hp
    exact hadmits c h.1
  | answered c bytes =>
    cases hp
    exact hadmits c h.1

variable [DecidableEq ι]

/-- The end of a run: its service is idle again, with a name that stands for what is loaded. -/
theorem Sound.close (hsep : Separate services) (h : Sound host tools services d) {c : Choice}
    {bytes : List Char} (hanswered : d.phase i = .answered c bytes) :
    Sound host tools services { d with
      files := c.close d.files bytes
      phase := Function.update d.phase i .idle } := by
  have hi := h.fits i
  rw [hanswered] at hi
  obtain ⟨hadm, hstands⟩ := hi
  rcases hadm.close_cases (h.settled i) bytes with ⟨hfiles, hdb⟩ | ⟨hS, hcand, hfiles⟩
  · rw [hdb] at hstands
    rw [hfiles]
    refine ⟨h.represents, h.settled, fun j => ?_⟩
    change Phase.Fits host tools services _ _ j (Function.update d.phase i _ j)
    by_cases hj : j = i
    · subst hj
      rw [Function.update_self]
      exact hstands
    · rw [Function.update_of_ne hj]
      exact h.fits j
  · rw [if_pos hS] at hstands
    rw [hfiles]
    have hpath : Function.update d.files (services i).db (some (.symlink c.path)) c.path =
        d.files c.path := Function.update_of_ne (hcand.outside i) _ _
    have hlink : Function.update d.files (services i).db (some (.symlink c.path)) (services i).db =
        some (.symlink c.path) := Function.update_self _ _ _
    refine ⟨h.represents, fun j => ?_, fun j => ?_⟩
    · by_cases hj : j = i
      · subst hj
        exact .inr (.inr ⟨c.path, hlink, hcand.congr hpath⟩)
      · exact (h.settled j).keeps ((h.settled j).keeps_of_update hsep hj _)
    · change Phase.Fits host tools services _ _ j (Function.update d.phase i _ j)
      by_cases hj : j = i
      · subst hj
        rw [Function.update_self]
        change Stands host tools _ _ _ _
        unfold Stands at hstands ⊢
        rw [(hcand.congr hpath).open_eq hlink, hcand.open_congr hpath]
        exact hstands
      · rw [Function.update_of_ne hj]
        refine (h.fits j).frame (h.settled j) ((h.settled j).keeps_of_update hsep hj _) ?_ rfl
        intro p hp
        exact Function.update_of_ne ((h.fits j).chosen_ne hsep hj hp) _ _

end Step

end CallFwd.Ctl
