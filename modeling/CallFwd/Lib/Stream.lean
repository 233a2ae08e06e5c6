/-
# Input streams with state bits, and loops that read them line by line

`std::istream` carries `eofbit` and `failbit` besides the characters that are left.  Three of
its rules decide what a read loop does at the end of its input:

* `peek` on a `good` stream with nothing left sets `eofbit`; on a stream that is not `good` it
  sets `failbit`;
* `getline` that runs out of characters before its delimiter sets `eofbit`, and `failbit` too
  when it extracted nothing;
* with `exceptions(failbit | badbit)` on, setting `failbit` throws.

The loops below are written with these rules.  The results say what they compute in terms of
the text alone: `pieces delim text` is the text cut at the delimiter, a NON-EMPTY unterminated
last piece counting as a piece, and `terminated delim text` says there is no such last piece.

* `getlines_ofText`: `while (getline(in, part, delim))` yields exactly the pieces.
* `readLines_ofText`: `while (in.peek() != EOF) { getline; .. }` folds over the lines, and then
  THROWS when the last one is unterminated: `getline` has set `eofbit`, so the next `peek` fails.
* `readAll_ofText`: the same loop cut into chunks of `chunk` lines under `while (in.good())`
  escapes that `peek` exactly when the last line is also the last of its chunk.
-/
import Mathlib.Data.List.Basic
import Mathlib.Tactic

namespace CallFwd.Lib

/-- An input stream: the characters not yet extracted and the two state bits the loops meet.
`badbit` reports a broken buffer and is never set here. -/
structure IStream where
  rest : List Char
  eof : Bool := false
  fail : Bool := false
deriving DecidableEq, Repr

namespace IStream

/-- A freshly opened stream. -/
def ofText (text : List Char) : IStream := { rest := text }

def good (s : IStream) : Bool := !s.eof && !s.fail

/-- `in.peek()`; `none` is `EOF`. -/
def peek (s : IStream) : Option Char × IStream :=
  if s.good then
    match s.rest with
    | [] => (none, { s with eof := true })
    | c :: _ => (some c, s)
  else (none, { s with fail := true })

/-- `std::getline(in, piece, delim)`: the delimiter is extracted and not kept. -/
def getline (delim : Char) (s : IStream) : List Char × IStream :=
  if s.good then
    let piece := s.rest.takeWhile (· != delim)
    match s.rest.dropWhile (· != delim) with
    | _ :: rest => (piece, { s with rest := rest })
    | [] => (piece, { rest := [], eof := true, fail := piece.isEmpty })
  else ([], { s with fail := true })

/-- What a loop over a stream uses up: its characters, and one more for reaching the end. -/
def size (s : IStream) : Nat := s.rest.length + if s.good then 1 else 0

theorem good_iff {s : IStream} : s.good = true ↔ s.eof = false ∧ s.fail = false := by
  simp [good]

theorem size_of_good {s : IStream} (h : s.good = true) : s.size = s.rest.length + 1 := by
  rw [size, if_pos h]

theorem size_of_eof {s : IStream} (h : s.eof = true) : s.size = s.rest.length := by
  simp [size, good, h]

@[simp] theorem good_ofText (text : List Char) : (ofText text).good = true := rfl

@[simp] theorem rest_ofText (text : List Char) : (ofText text).rest = text := rfl

end IStream

/-! ## 1. A text and its pieces -/

/-- The text cut at `delim`; a non-empty unterminated last piece counts. -/
def pieces (delim : Char) : List Char → List (List Char)
  | [] => []
  | c :: text =>
    if c = delim then [] :: pieces delim text
    else match pieces delim text with
      | [] => [[c]]
      | p :: ps => (c :: p) :: ps

/-- Nothing is left over after the last delimiter. -/
def terminated (delim : Char) (text : List Char) : Bool := text.getLast?.all (· == delim)

@[simp] theorem pieces_nil (delim : Char) : pieces delim [] = [] := rfl

@[simp] theorem terminated_nil (delim : Char) : terminated delim [] = true := rfl

theorem pieces_delim_cons (delim : Char) (text : List Char) :
    pieces delim (delim :: text) = [] :: pieces delim text := by
  simp [pieces]

/-- A first piece that its delimiter ends. -/
theorem pieces_append_delim {delim : Char} {p : List Char} (text : List Char) (h : delim ∉ p) :
    pieces delim (p ++ delim :: text) = p :: pieces delim text := by
  induction p with
  | nil => exact pieces_delim_cons delim text
  | cons c p ih =>
    have hc : c ≠ delim := fun e => h (e ▸ List.mem_cons_self)
    have hp : delim ∉ p := fun hm => h (List.mem_cons_of_mem _ hm)
    simp [pieces, hc, ih hp]

/-- A text without the delimiter is its own only piece. -/
theorem pieces_of_not_mem {delim : Char} :
    ∀ {p : List Char}, p ≠ [] → delim ∉ p → pieces delim p = [p]
  | [], h, _ => absurd rfl h
  | [c], _, h => by
    have hc : c ≠ delim := fun e => h (e ▸ List.mem_cons_self)
    simp [pieces, hc]
  | c :: d :: p, _, h => by
    have hc : c ≠ delim := fun e => h (e ▸ List.mem_cons_self)
    have ih := @pieces_of_not_mem delim (d :: p) (List.cons_ne_nil d p)
      (fun hm => h (List.mem_cons_of_mem _ hm))
    rw [pieces, if_neg hc, ih]

/-- No piece has the delimiter in it. -/
theorem not_mem_of_mem_pieces {delim : Char} {text p : List Char} (h : p ∈ pieces delim text) :
    delim ∉ p := by
  induction text generalizing p with
  | nil => exact absurd h List.not_mem_nil
  | cons c text ih =>
    rw [pieces] at h
    split at h
    · rcases List.mem_cons.mp h with rfl | h
      · exact List.not_mem_nil
      · exact ih h
    · rename_i hc
      split at h
      · obtain rfl := List.mem_singleton.mp h
        simpa using fun e : delim = c => hc e.symm
      · rename_i q qs hq
        rcases List.mem_cons.mp h with rfl | h
        · have hmem : q ∈ pieces delim text := hq ▸ List.mem_cons_self
          rw [List.mem_cons, not_or]
          exact ⟨fun e => hc e.symm, ih hmem⟩
        · have hmem : p ∈ pieces delim text := hq ▸ List.mem_cons_of_mem _ h
          exact ih hmem

theorem terminated_append_delim (delim : Char) (p text : List Char) :
    terminated delim (p ++ delim :: text) = terminated delim text := by
  cases text with
  | nil => simp [terminated]
  | cons c t =>
    have h : (p ++ delim :: c :: t).getLast? = (c :: t).getLast? := by
      rw [List.getLast?_append_of_ne_nil _ (List.cons_ne_nil _ _), List.getLast?_cons_cons]
    rw [terminated, terminated, h]

theorem terminated_of_not_mem {delim : Char} {p : List Char} (hne : p ≠ []) (h : delim ∉ p) :
    terminated delim p = false := by
  rw [terminated, List.getLast?_eq_some_getLast hne, Option.all_some]
  have : p.getLast hne ≠ delim := fun e => h (e ▸ List.getLast_mem hne)
  simpa using this

/-- How a text starts: it is empty, its first piece is terminated, or it is one unterminated
piece.  Every induction over a stream below splits on this. -/
theorem text_cases (delim : Char) (text : List Char) :
    text = [] ∨ (∃ p rest, delim ∉ p ∧ text = p ++ delim :: rest) ∨
      (text ≠ [] ∧ delim ∉ text) := by
  by_cases hm : delim ∈ text
  · obtain ⟨p, rest, h, hp⟩ := List.eq_append_cons_of_mem hm
    exact Or.inr (Or.inl ⟨p, rest, hp, h⟩)
  · by_cases hne : text = []
    · exact Or.inl hne
    · exact Or.inr (Or.inr ⟨hne, hm⟩)

/-! ## 2. One `getline` -/

namespace IStream

theorem takeWhile_piece {delim : Char} {p : List Char} (rest : List Char) (h : delim ∉ p) :
    (p ++ delim :: rest).takeWhile (· != delim) = p := by
  rw [List.takeWhile_append_of_pos]
  · simp
  · intro c hc
    have : c ≠ delim := fun e => h (e ▸ hc)
    simpa using this

theorem dropWhile_piece {delim : Char} {p : List Char} (rest : List Char) (h : delim ∉ p) :
    (p ++ delim :: rest).dropWhile (· != delim) = delim :: rest := by
  rw [List.dropWhile_append_of_pos]
  · simp
  · intro c hc
    have : c ≠ delim := fun e => h (e ▸ hc)
    simpa using this

theorem getline_terminated {delim : Char} {p : List Char} (rest : List Char) (h : delim ∉ p) :
    (ofText (p ++ delim :: rest)).getline delim = (p, ofText rest) := by
  simp only [getline, good_ofText, if_true, rest_ofText, takeWhile_piece rest h,
    dropWhile_piece rest h]
  rfl

theorem getline_unterminated {delim : Char} {p : List Char} (hne : p ≠ []) (h : delim ∉ p) :
    (ofText p).getline delim = (p, { rest := [], eof := true, fail := false }) := by
  have hall : ∀ c ∈ p, (c != delim) = true := fun c hc => by
    have : c ≠ delim := fun e => h (e ▸ hc)
    simpa using this
  have htake : p.takeWhile (· != delim) = p := by
    rw [← List.append_nil p, List.takeWhile_append_of_pos hall, List.takeWhile_nil]
  have hdrop : p.dropWhile (· != delim) = [] := by
    rw [← List.append_nil p, List.dropWhile_append_of_pos hall, List.dropWhile_nil]
  have hemp : p.isEmpty = false := by simpa using hne
  simp only [getline, good_ofText, if_true, rest_ofText, htake, hdrop, hemp]

/-- A `getline` that does not fail uses the stream up. -/
theorem getline_size_lt {delim : Char} {s : IStream} (h : (s.getline delim).2.fail = false) :
    (s.getline delim).2.size < s.size := by
  unfold getline at h ⊢
  split at h
  · rename_i hg
    rw [if_pos hg]
    cases hd : s.rest.dropWhile (· != delim) with
    | nil =>
      rw [size_of_good hg, size_of_eof rfl]
      exact Nat.succ_pos _
    | cons c rest =>
      have hlen : (s.rest.dropWhile (· != delim)).length ≤ s.rest.length :=
        (List.dropWhile_sublist _).length_le
      rw [hd, List.length_cons] at hlen
      have hg' : ({ s with rest := rest } : IStream).good = true := hg
      rw [size_of_good hg, size_of_good hg']
      exact Nat.succ_lt_succ hlen
  · simp at h

end IStream

/-! ## 3. The loops -/

open IStream

/-- `while (std::getline(in, part, delim)) parts.push_back(part);` with no exceptions on. -/
def getlines (delim : Char) (s : IStream) : List (List Char) :=
  if _h : (s.getline delim).2.fail = false then
    (s.getline delim).1 :: getlines delim (s.getline delim).2
  else []
termination_by s.size
decreasing_by exact getline_size_lt _h

/-- The stream after a `getline` that met the end of the text. -/
def ended : IStream := { rest := [], eof := true }

section Loops

variable {E B : Type} (failure : E) (row : B → List Char → Except E B)

/-- `if (in.peek() == EOF) break; std::getline(in, linebuf); ..`: one turn of a loop that reads
with exceptions on for `failbit`, thrown as `failure`.  `none` is the `break`; otherwise `row`
gets the line. -/
def readLine (s : IStream) (b : B) : Except E (IStream × Option B) :=
  match s.peek with
  | (none, s') => if s'.fail then .error failure else .ok (s', none)
  | (some _, s') =>
    if (s'.getline '\n').2.fail then .error failure
    else match row b (s'.getline '\n').1 with
      | .error e => .error e
      | .ok b' => .ok ((s'.getline '\n').2, some b')

/-- At most `limit` turns. -/
def readChunk : Nat → IStream → B → Except E (IStream × B)
  | 0, s, b => .ok (s, b)
  | limit + 1, s, b =>
    match readLine failure row s b with
    | .error e => .error e
    | .ok (s', none) => .ok (s', b)
    | .ok (s', some b') => readChunk limit s' b'

variable {failure row}

/-- A turn that does not throw uses the stream up. -/
theorem readLine_size_lt {s s' : IStream} {b : B} {o : Option B}
    (h : readLine failure row s b = .ok (s', o)) : s'.size < s.size := by
  unfold readLine peek at h
  by_cases hg : s.good
  · rw [if_pos hg] at h
    cases hr : s.rest with
    | nil =>
      simp only [hr, (good_iff.mp hg).2, Bool.false_eq_true, if_false, Except.ok.injEq,
        Prod.mk.injEq] at h
      obtain ⟨rfl, -⟩ := h
      rw [size_of_good hg, size_of_eof rfl, hr]
      exact Nat.succ_pos _
    | cons c rest =>
      simp only [hr] at h
      split at h
      · exact absurd h (by simp)
      · rename_i hf
        split at h
        · exact absurd h (by simp)
        · simp only [Except.ok.injEq, Prod.mk.injEq] at h
          obtain ⟨rfl, -⟩ := h
          exact getline_size_lt (by simpa using hf)
  · rw [if_neg hg] at h
    simp at h

theorem readChunk_size_le {limit : Nat} {s s' : IStream} {b b' : B}
    (h : readChunk failure row limit s b = .ok (s', b')) : s'.size ≤ s.size := by
  induction limit generalizing s b with
  | zero =>
    simp only [readChunk, Except.ok.injEq, Prod.mk.injEq] at h
    exact h.1 ▸ le_refl _
  | succ limit ih =>
    rw [readChunk] at h
    split at h
    · exact absurd h (by simp)
    · rename_i s₁ hl
      simp only [Except.ok.injEq, Prod.mk.injEq] at h
      exact h.1 ▸ (readLine_size_lt hl).le
    · rename_i s₁ b₁ hl
      exact (ih h).trans (readLine_size_lt hl).le

theorem readChunk_size_lt {limit : Nat} {s s' : IStream} {b b' : B} (hlim : 0 < limit)
    (h : readChunk failure row limit s b = .ok (s', b')) : s'.size < s.size := by
  obtain ⟨n, rfl⟩ : ∃ n, limit = n + 1 := ⟨limit - 1, by omega⟩
  rw [readChunk] at h
  split at h
  · exact absurd h (by simp)
  · rename_i s₁ hl
    simp only [Except.ok.injEq, Prod.mk.injEq] at h
    exact h.1 ▸ readLine_size_lt hl
  · rename_i s₁ b₁ hl
    exact (readChunk_size_le h).trans_lt (readLine_size_lt hl)

variable (failure row)

/-- `while (in.good()) { at most chunk turns }`. -/
def readAll (chunk : Nat) (hc : 0 < chunk) (s : IStream) (b : B) : Except E B :=
  if s.good then
    match _h : readChunk failure row chunk s b with
    | .error e => .error e
    | .ok (s', b') => readAll chunk hc s' b'
  else .ok b
termination_by s.size
decreasing_by exact readChunk_size_lt hc _h

/-- `while (in.peek() != EOF) { getline; .. }`: turns without a limit. -/
def readLines (s : IStream) (b : B) : Except E B :=
  match _h : readLine failure row s b with
  | .error e => .error e
  | .ok (_, none) => .ok b
  | .ok (s', some b') => readLines s' b'
termination_by s.size
decreasing_by exact readLine_size_lt _h

/-! ## 4. What one turn does -/

variable {failure row}

theorem readLine_nil (b : B) :
    readLine failure row (ofText []) b = .ok (ended, none) := rfl

/-- The turn that throws: `eofbit` is set and `peek` is asked again. -/
theorem readLine_ended (b : B) : readLine failure row ended b = .error failure := rfl

theorem readLine_terminated {p : List Char} (rest : List Char) (b : B) (h : '\n' ∉ p) :
    readLine failure row (ofText (p ++ '\n' :: rest)) b =
      (row b p).map fun b' => (ofText rest, some b') := by
  have hpeek : (ofText (p ++ '\n' :: rest)).peek =
      (some ((p ++ '\n' :: rest).head (by simp)), ofText (p ++ '\n' :: rest)) := by
    cases p <;> rfl
  simp only [readLine, hpeek, getline_terminated rest h]
  cases row b p <;> rfl

theorem readLine_unterminated {p : List Char} (b : B) (hne : p ≠ []) (h : '\n' ∉ p) :
    readLine failure row (ofText p) b = (row b p).map fun b' => (ended, some b') := by
  have hpeek : (ofText p).peek = (some (p.head hne), ofText p) := by
    cases p with
    | nil => exact absurd rfl hne
    | cons c p => rfl
  simp only [readLine, hpeek, getline_unterminated hne h]
  cases row b p <;> rfl

/-! ## 5. What the loops compute -/

/-- **The loop without a limit.**  It folds over the lines; an unterminated last line makes it
throw after that line was handled. -/
theorem readLines_ofText (text : List Char) (b : B) :
    readLines failure row (ofText text) b =
      (pieces '\n' text).foldlM row b >>= fun b' =>
        if terminated '\n' text then .ok b' else .error failure := by
  induction hn : text.length using Nat.strong_induction_on generalizing text b with
  | _ n ih =>
    rw [readLines]
    rcases text_cases '\n' text with rfl | ⟨p, rest, hp, rfl⟩ | ⟨hne, hp⟩
    · simp [readLine_nil]
    · have hlt : rest.length < n := by subst hn; simp; omega
      rw [readLine_terminated rest b hp, pieces_append_delim rest hp,
        terminated_append_delim, List.foldlM_cons]
      cases row b p with
      | error e => rfl
      | ok b' => exact ih rest.length hlt rest b' rfl
    · rw [readLine_unterminated b hne hp, pieces_of_not_mem hne hp,
        terminated_of_not_mem hne hp, List.foldlM_cons]
      cases row b text with
      | error e => rfl
      | ok b' =>
        change readLines failure row ended b' = _
        rw [readLines, readLine_ended]
        rfl

theorem readAll_ended (chunk : Nat) (hc : 0 < chunk) (b : B) :
    readAll failure row chunk hc ended b = .ok b := by
  rw [readAll]
  rfl

theorem readAll_good {chunk : Nat} (hc : 0 < chunk) {s : IStream} (hs : s.good = true) (b : B) :
    readAll failure row chunk hc s b =
      readChunk failure row chunk s b >>= fun sb => readAll failure row chunk hc sb.1 sb.2 := by
  rw [readAll, if_pos hs]
  split
  · rename_i e he
    rw [he]
    rfl
  · rename_i s' b' hok
    rw [hok]
    rfl

/-- Counting one line off both sides of the alignment test. -/
theorem succ_mod_beq_succ_mod (chunk n k : Nat) :
    ((n + 1) % chunk == (k + 1) % chunk) = (n % chunk == k % chunk) := by
  rw [Bool.eq_iff_iff, beq_iff_eq, beq_iff_eq]
  exact ⟨fun h => Nat.ModEq.add_right_cancel' 1 h, fun h => Nat.ModEq.add_right 1 h⟩

/-- Inside a chunk only its last turn is aligned with a single remaining line. -/
theorem one_mod_beq_eq_false {chunk k : Nat} (hk : k + 2 ≤ chunk) :
    (1 % chunk == (k + 2) % chunk) = false := by
  rw [beq_eq_false_iff_ne, Nat.mod_eq_of_lt (by omega)]
  rcases Nat.lt_or_ge (k + 2) chunk with hlt | hge
  · rw [Nat.mod_eq_of_lt hlt]
    omega
  · rw [show k + 2 = chunk by omega, Nat.mod_self]
    omega

/-- The chunked loop, entered with `k + 1` turns left of the current chunk.  The induction is on
the text; `k` runs down to the end of the chunk, where `readAll` starts the next one. -/
theorem readChunk_readAll_ofText (chunk : Nat) (hc : 0 < chunk) (text : List Char) (k : Nat)
    (hk : k + 1 ≤ chunk) (b : B) :
    (readChunk failure row (k + 1) (ofText text) b >>= fun sb =>
        readAll failure row chunk hc sb.1 sb.2) =
      (pieces '\n' text).foldlM row b >>= fun b' =>
        if terminated '\n' text || (pieces '\n' text).length % chunk == (k + 1) % chunk
        then .ok b' else .error failure := by
  induction hn : text.length using Nat.strong_induction_on generalizing text k b with
  | _ n ih =>
    rw [readChunk]
    rcases text_cases '\n' text with rfl | ⟨p, rest, hp, rfl⟩ | ⟨hne, hp⟩
    · rw [readLine_nil]
      change readAll failure row chunk hc ended b = _
      rw [readAll_ended]
      simp
    · have hlt : rest.length < n := by subst hn; simp; omega
      rw [readLine_terminated rest b hp, pieces_append_delim rest hp,
        terminated_append_delim, List.foldlM_cons, List.length_cons, succ_mod_beq_succ_mod]
      cases row b p with
      | error e => rfl
      | ok b' =>
        change (readChunk failure row k (ofText rest) b' >>= _) = _
        cases k with
        | zero =>
          -- the chunk is used up: the outer loop tests `good` and starts another
          obtain ⟨c, rfl⟩ : ∃ c, chunk = c + 1 := ⟨chunk - 1, by omega⟩
          have h := ih rest.length hlt rest c (le_refl _) b' rfl
          rw [Nat.mod_self] at h
          change readAll failure row (c + 1) hc (ofText rest) b' = _
          rw [readAll_good hc rfl, h, Nat.zero_mod]
          rfl
        | succ k => exact ih rest.length hlt rest k (by omega) b' rfl
    · rw [readLine_unterminated b hne hp, pieces_of_not_mem hne hp,
        terminated_of_not_mem hne hp, List.foldlM_cons, List.length_singleton, Bool.false_or]
      cases row b text with
      | error e => rfl
      | ok b' =>
        change (readChunk failure row k ended b' >>= _) =
          (if 1 % chunk == (k + 1) % chunk then .ok b' else .error failure)
        cases k with
        | zero =>
          change readAll failure row chunk hc ended b' = _
          rw [readAll_ended, if_pos (beq_self_eq_true _)]
        | succ k =>
          rw [one_mod_beq_eq_false hk, readChunk, readLine_ended]
          rfl

/-- A text the chunked loop reads to its end without throwing: its last line is terminated, or
it is the last line of a chunk. -/
def endsCleanly (chunk : Nat) (text : List Char) : Bool :=
  terminated '\n' text || (pieces '\n' text).length % chunk == 0

/-- **The chunked loop.**  It folds over the lines of the text, whatever their alignment with
the chunks; then it throws unless the text ends cleanly. -/
theorem readAll_ofText (chunk : Nat) (hc : 0 < chunk) (text : List Char) (b : B) :
    readAll failure row chunk hc (ofText text) b =
      (pieces '\n' text).foldlM row b >>= fun b' =>
        if endsCleanly chunk text then .ok b' else .error failure := by
  obtain ⟨c, rfl⟩ : ∃ c, chunk = c + 1 := ⟨chunk - 1, by omega⟩
  rw [readAll_good hc rfl, readChunk_readAll_ofText _ hc text c (le_refl _) b, Nat.mod_self]
  rfl

end Loops

/-- The loop that splits a line: its parts are the pieces. -/
theorem getlines_ofText (delim : Char) (text : List Char) :
    getlines delim (ofText text) = pieces delim text := by
  induction hn : text.length using Nat.strong_induction_on generalizing text with
  | _ n ih =>
    rw [getlines]
    rcases text_cases delim text with rfl | ⟨p, rest, hp, rfl⟩ | ⟨hne, hp⟩
    · rfl
    · have hlt : rest.length < n := by subst hn; simp; omega
      rw [getline_terminated rest hp, pieces_append_delim rest hp]
      exact congrArg (List.cons p) (ih rest.length hlt rest rfl)
    · simp only [getline_unterminated hne hp, pieces_of_not_mem hne hp, dif_pos]
      rw [getlines]
      rfl

/-- The fields of a line are its pieces, and behind a delimiter at its end an empty one that the
loop does not see. -/
theorem splitOn_eq_pieces (delim : Char) (text : List Char) :
    text.splitOn delim =
      if terminated delim text then pieces delim text ++ [[]] else pieces delim text := by
  induction hn : text.length using Nat.strong_induction_on generalizing text with
  | _ n ih =>
    rcases text_cases delim text with rfl | ⟨p, rest, hp, rfl⟩ | ⟨hne, hp⟩
    · rfl
    · have hlt : rest.length < n := by subst hn; simp; omega
      rw [List.splitOn_append_cons_self_of_not_mem hp, ih rest.length hlt rest rfl,
        pieces_append_delim rest hp, terminated_append_delim]
      split <;> rfl
    · rw [List.splitOn_eq_singleton hp, terminated_of_not_mem hne hp, if_neg Bool.false_ne_true,
        pieces_of_not_mem hne hp]

/-- There is no delimiter in a field. -/
theorem not_mem_of_mem_splitOn {delim : Char} {text p : List Char}
    (h : p ∈ text.splitOn delim) : delim ∉ p := by
  rw [splitOn_eq_pieces] at h
  split at h
  · rcases List.mem_append.mp h with h | h
    · exact not_mem_of_mem_pieces h
    · rw [List.mem_singleton.mp h]
      exact List.not_mem_nil
  · exact not_mem_of_mem_pieces h

/-- One field more than delimiters. -/
theorem length_splitOn (delim : Char) (text : List Char) :
    (text.splitOn delim).length = text.count delim + 1 := by
  induction hn : text.length using Nat.strong_induction_on generalizing text with
  | _ n ih =>
    rcases text_cases delim text with rfl | ⟨p, rest, hp, rfl⟩ | ⟨-, hp⟩
    · rfl
    · have hlt : rest.length < n := by subst hn; simp; omega
      rw [List.splitOn_append_cons_self_of_not_mem hp, List.length_cons,
        ih rest.length hlt rest rfl, List.count_append, List.count_cons_self,
        List.count_eq_zero_of_not_mem hp, Nat.zero_add]
    · rw [List.splitOn_eq_singleton hp, List.count_eq_zero_of_not_mem hp]
      rfl

end CallFwd.Lib
