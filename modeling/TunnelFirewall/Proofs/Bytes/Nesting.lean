import Mathlib.Data.List.Infix
import TunnelFirewall.Proofs.Bytes.Position

/-!
# Nested cursors

Cursors over blocks of a byte string stand on a stack, each over a block that the one below it has
handed out. Whatever is asked of the one on top, in whatever order, no cursor leaves its bytes: what
its answers went past, in order, and what is still to be read make up its bytes. A request for more
than there is fails in front of every move, so that the cursor it is put back on the stack with is
the one that was asked; and nothing that is done inside a block moves the cursor that handed it out.
-/
namespace TunnelFirewall.Cursor

/-- What a cursor can be asked for. -/
inductive Request
  | byte
  /-- The next bytes as a number. -/
  | number (width : Nat)
  | peek
  | skip (n : Nat)
  | take (n : Nat)
  | rest
  /-- A cursor over the next bytes alone. -/
  | sub (n : Nat)
deriving DecidableEq

inductive Answer
  | byte (byte : UInt8)
  | number (value : Nat)
  | bytes (bytes : Bytes)
  | cursor (inner : Cursor)
  | done
deriving DecidableEq

/-- How many unread bytes a request needs. -/
def Request.demand : Request → Nat
  | .number n | .skip n | .take n | .sub n => n
  | .byte | .peek => 1
  | .rest => 0

/-- The answer of a cursor, if it has one, and where it stands then. -/
def answer (c : Cursor) : Request → Option Answer × Cursor
  | .byte =>
    let (byte, c) := c.readByte
    (byte.map .byte, c)
  | .number width =>
    let (value, c) := c.readNumber width
    (value.map .number, c)
  | .peek => (c.peek?.map .byte, c)
  | .skip n =>
    let (done, c) := c.skip n
    (done.map fun _ => .done, c)
  | .take n =>
    let (bytes, c) := c.take n
    (bytes.map .bytes, c)
  | .rest => (some (.bytes c.rest), c)
  | .sub n =>
    let (inner, c) := c.sub n
    (inner.map .cursor, c)

/-- The answer goes past a piece of the unread bytes, by which it is given, and leaves a rest. -/
def Covers : Request → Answer → Bytes → Bytes → Prop
  | .byte, answer, piece, _ => ∃ byte, piece = [byte] ∧ answer = .byte byte
  | .number width, answer, piece, _ =>
    piece.length = width ∧ answer = .number (Bytes.bigEndian piece)
  | .peek, answer, piece, rest => piece = [] ∧ ∃ byte, rest.head? = some byte ∧ answer = .byte byte
  | .skip n, answer, piece, _ => piece.length = n ∧ answer = .done
  | .take n, answer, piece, _ => piece.length = n ∧ answer = .bytes piece
  | .rest, answer, piece, rest => piece = [] ∧ answer = .bytes rest
  | .sub n, answer, piece, _ => piece.length = n ∧ answer = .cursor (ofBytes piece)

/-- The bytes in front of the cursor. -/
def consumed (c : Cursor) : Bytes := c.data.take c.position

/-- The second cursor stands in the same bytes as the first, behind one more piece of them. -/
structure Advances (c : Cursor) (piece : Bytes) (next : Cursor) : Prop where
  data : next.data = c.data
  rest : c.rest = piece ++ next.rest
  position : next.position = c.position + piece.length

variable {c next : Cursor} {n : Nat} {piece : Bytes} {request : Request} {answer : Answer}

theorem advances_nil (c : Cursor) : c.Advances [] c := ⟨rfl, rfl, rfl⟩

theorem length_take_rest (h : n ≤ c.remaining) : (c.rest.take n).length = n := by
  rw [List.length_take, length_rest, Nat.min_eq_left h]

theorem advances_take (h : n ≤ c.remaining) : c.Advances (c.rest.take n) (c.advance n) where
  data := rfl
  rest := by
    have hrest : (c.advance n).rest = c.rest.drop n := by
      rw [rest, rest, List.drop_drop]
      rfl
    rw [hrest, List.take_append_drop]
  position := by
    rw [length_take_rest h]
    rfl

theorem Advances.take_rest (h : c.Advances piece next) : c.rest.take piece.length = piece := by
  rw [h.rest, List.take_left]

/-- What stands in the bytes stays in them. -/
theorem Advances.position_le (h : c.Advances piece next) (hinside : c.position ≤ c.data.length) :
    next.position ≤ next.data.length := by
  have hlength := congrArg List.length h.rest
  rw [length_rest, List.length_append, remaining] at hlength
  rw [h.data, h.position]
  omega

theorem peek?_eq_head? (c : Cursor) : c.peek? = c.rest.head? := by
  rw [peek?, rest, List.head?_drop]

theorem peek?_of_lt (h : c.remaining < 1) : c.peek? = none := by
  rw [peek?_eq_head?, List.head?_eq_none_iff, ← List.length_eq_zero_iff, length_rest]
  exact Nat.lt_one_iff.1 h

theorem exists_peek? (h : 1 ≤ c.remaining) :
    ∃ byte, c.peek? = some byte ∧ c.rest.take 1 = [byte] := by
  rw [← length_rest] at h
  obtain ⟨byte, tail, hrest⟩ := List.exists_cons_of_length_pos h
  exact ⟨byte, by rw [peek?_eq_head?, hrest]; rfl, by rw [hrest]; rfl⟩

/-- A request for more bytes than there are has no answer, and the cursor stays where it is. -/
theorem answer_of_lt (h : c.remaining < request.demand) : c.answer request = (none, c) := by
  cases request with
  | byte => simp only [answer, readByte, peek?_of_lt h, Option.map_none]
  | number width => simp only [answer, readNumber, take_of_lt (n := width) h, Option.map_none]
  | peek => rw [answer, peek?_of_lt h, Option.map_none]
  | skip n => simp only [answer, skip, take_of_lt (n := n) h, Option.map_none]
  | take n => simp only [answer, take_of_lt (n := n) h, Option.map_none]
  | rest => exact absurd h (Nat.not_lt_zero _)
  | sub n => simp only [answer, sub, take_of_lt (n := n) h, Option.map_none]

/-- Any other request is answered by what the cursor goes past and what it leaves. -/
theorem exists_answer (h : request.demand ≤ c.remaining) :
    ∃ piece answer next, c.answer request = (some answer, next) ∧ c.Advances piece next ∧
      Covers request answer piece next.rest := by
  cases request with
  | byte =>
    obtain ⟨byte, hpeek, htake⟩ := exists_peek? h
    refine ⟨c.rest.take 1, .byte byte, c.advance 1, ?_, advances_take h, byte, htake, rfl⟩
    simp only [answer, readByte, hpeek, Option.map_some]
  | number width =>
    refine ⟨c.rest.take width, _, c.advance width, ?_, advances_take h, length_take_rest h, rfl⟩
    simp only [answer, readNumber, take_of_le_remaining (n := width) h, Option.map_some]
  | peek =>
    obtain ⟨byte, hpeek, -⟩ := exists_peek? h
    refine ⟨[], .byte byte, c, ?_, advances_nil c, rfl, byte, ?_, rfl⟩
    · rw [answer, hpeek, Option.map_some]
    · rw [← peek?_eq_head?, hpeek]
  | skip n =>
    refine ⟨c.rest.take n, _, c.advance n, ?_, advances_take h, length_take_rest h, rfl⟩
    simp only [answer, skip, take_of_le_remaining (n := n) h, Option.map_some]
  | take n =>
    refine ⟨c.rest.take n, _, c.advance n, ?_, advances_take h, length_take_rest h, rfl⟩
    simp only [answer, take_of_le_remaining (n := n) h, Option.map_some]
  | rest => exact ⟨[], _, c, rfl, advances_nil c, rfl, rfl⟩
  | sub n =>
    refine ⟨c.rest.take n, _, c.advance n, ?_, advances_take h, length_take_rest h, rfl⟩
    simp only [answer, sub, take_of_le_remaining (n := n) h, Option.map_some]

/-- A cursor with the answers that it has given, in order. -/
structure Reader where
  cursor : Cursor
  answers : List (Request × Answer) := []

/-- The cursor on top, and those that it was handed out by, the nearest one first. -/
structure Stack where
  top : Reader
  below : List Reader

inductive Operation
  | ask (request : Request)
  /-- The cursor on top is given up, unless it is the only one. -/
  | drop

namespace Stack

/-- A single cursor over a byte string. -/
def ofBytes (data : Bytes) : Stack := ⟨{ cursor := .ofBytes data }, []⟩

def readers (s : Stack) : List Reader := s.top :: s.below

/-- The cursor on top has answered and moved on; a cursor that it hands out is the new top. -/
def answered (s : Stack) (request : Request) (answer : Answer) (next : Cursor) : Stack :=
  let reader : Reader := ⟨next, s.top.answers ++ [(request, answer)]⟩
  match answer with
  | .cursor inner => ⟨{ cursor := inner }, reader :: s.below⟩
  | _ => ⟨reader, s.below⟩

/-- What an operation gives, if anything, and the stack behind it. -/
def step (s : Stack) : Operation → Option Answer × Stack
  | .ask request =>
    match s.top.cursor.answer request with
    | (some answer, next) => (some answer, s.answered request answer next)
    | (none, next) => (none, ⟨{ s.top with cursor := next }, s.below⟩)
  | .drop =>
    match s.below with
    | reader :: below => (some .done, ⟨reader, below⟩)
    | [] => (none, s)

def run (s : Stack) (operations : List Operation) : Stack :=
  operations.foldl (fun s operation => (s.step operation).2) s

/-- What an operation may do. A request for more than there is leaves every cursor as it was; any
other moves the cursor on top by the piece that its answer goes past, and nothing else. A block
becomes a cursor of its own on top, over just that piece; giving it up uncovers the one below. -/
inductive Moves (s : Stack) : Operation → Option Answer → Stack → Prop
  | refused {request : Request} (h : s.top.cursor.remaining < request.demand) :
      s.Moves (.ask request) none s
  | answered {request : Request} {answer : Answer} {piece : Bytes} {next : Cursor}
      (advances : s.top.cursor.Advances piece next) (covers : Covers request answer piece next.rest)
      (outside : ∀ n, request ≠ .sub n) :
      s.Moves (.ask request) (some answer)
        ⟨⟨next, s.top.answers ++ [(request, answer)]⟩, s.below⟩
  | entered {piece : Bytes} {next : Cursor} (advances : s.top.cursor.Advances piece next) :
      s.Moves (.ask (.sub piece.length)) (some (.cursor (.ofBytes piece)))
        ⟨{ cursor := .ofBytes piece },
          ⟨next, s.top.answers ++ [(.sub piece.length, .cursor (.ofBytes piece))]⟩ :: s.below⟩
  | dropped {reader : Reader} {below : List Reader} (h : s.below = reader :: below) :
      s.Moves .drop (some .done) ⟨reader, below⟩
  | kept (h : s.below = []) : s.Moves .drop none s

end Stack

/-- The answers, in order, went past the bytes consumed and left the rest. -/
inductive Accounts : List (Request × Answer) → Bytes → Bytes → Prop
  | start (data : Bytes) : Accounts [] [] data
  | answer {answers : List (Request × Answer)} {consumed piece rest : Bytes} {request : Request}
      {answer : Answer} (before : Accounts answers consumed (piece ++ rest))
      (covers : Covers request answer piece rest) :
      Accounts (answers ++ [(request, answer)]) (consumed ++ piece) rest

/-- The last cursor is over the whole string, and every other over the block behind which the next
one stands. -/
inductive Nested (data : Bytes) : List Reader → Prop
  | whole {reader : Reader} (h : reader.cursor.data = data) : Nested data [reader]
  | block {inner outer : Reader} {readers : List Reader}
      (h : inner.cursor.data <:+ outer.cursor.consumed) (rest : Nested data (outer :: readers)) :
      Nested data (inner :: outer :: readers)

/-- What holds of the cursors on a stack, however it came about. -/
structure Stack.Disciplined (data : Bytes) (s : Stack) : Prop where
  inside : ∀ reader ∈ s.readers, reader.cursor.position ≤ reader.cursor.data.length
  accounts : ∀ reader ∈ s.readers,
    Accounts reader.answers reader.cursor.consumed reader.cursor.rest
  within : ∀ reader ∈ s.readers, reader.cursor.data <:+: data
  nested : Nested data s.readers

variable {data : Bytes} {s s' : Stack} {operation : Operation} {result : Option Answer}

theorem consumed_append_rest (c : Cursor) : c.consumed ++ c.rest = c.data :=
  List.take_append_drop _ _

theorem length_consumed (h : c.position ≤ c.data.length) : c.consumed.length = c.position := by
  rw [consumed, List.length_take, Nat.min_eq_left h]

theorem Advances.consumed_eq (h : c.Advances piece next) : next.consumed = c.consumed ++ piece := by
  have hwhole : c.consumed ++ (piece ++ next.rest) = next.consumed ++ next.rest := by
    rw [← h.rest, consumed_append_rest, consumed_append_rest, h.data]
  rw [← List.append_assoc] at hwhole
  exact (List.append_cancel_right hwhole).symm

theorem Accounts.advance {answers : List (Request × Answer)}
    (h : Accounts answers c.consumed c.rest) (advances : c.Advances piece next)
    (covers : Covers request answer piece next.rest) :
    Accounts (answers ++ [(request, answer)]) next.consumed next.rest := by
  rw [advances.consumed_eq]
  rw [advances.rest] at h
  exact h.answer covers

theorem accounts_ofBytes (data : Bytes) :
    Accounts [] (ofBytes data).consumed (ofBytes data).rest := .start data

/-- Only its bytes matter of the cursor on top. -/
theorem Nested.top {inner inner' : Reader} {readers : List Reader}
    (h : Nested data (inner :: readers)) (hdata : inner'.cursor.data = inner.cursor.data) :
    Nested data (inner' :: readers) := by
  cases h with
  | whole h => exact .whole (hdata.trans h)
  | block h rest => exact .block (hdata ▸ h) rest

theorem Nested.of_cons {inner outer : Reader} {readers : List Reader}
    (h : Nested data (inner :: outer :: readers)) : Nested data (outer :: readers) := by
  cases h with
  | block _ rest => exact rest

namespace Stack

theorem step_moves (s : Stack) (operation : Operation) :
    s.Moves operation (s.step operation).1 (s.step operation).2 := by
  cases operation with
  | ask request =>
    rcases Nat.lt_or_ge s.top.cursor.remaining request.demand with hshort | hroom
    · rw [step, answer_of_lt hshort]
      exact .refused hshort
    · obtain ⟨piece, answer, next, hanswer, advances, covers⟩ := exists_answer hroom
      rw [step, hanswer]
      cases request with
      | sub n =>
        obtain ⟨rfl, rfl⟩ := covers
        exact .entered advances
      | peek =>
        obtain ⟨-, byte, -, rfl⟩ := id covers
        exact .answered advances covers nofun
      | byte =>
        obtain ⟨byte, -, rfl⟩ := id covers
        exact .answered advances covers nofun
      | number _ | skip _ | take _ | rest =>
        obtain ⟨-, rfl⟩ := id covers
        exact .answered advances covers nofun
  | drop =>
    rw [step]
    split
    · rename_i reader below hbelow
      exact .dropped hbelow
    · rename_i hbelow
      exact .kept hbelow

theorem disciplined_ofBytes (data : Bytes) : (ofBytes data).Disciplined data where
  inside := by
    intro reader hreader
    obtain rfl := List.mem_singleton.1 hreader
    exact Nat.zero_le _
  accounts := by
    intro reader hreader
    obtain rfl := List.mem_singleton.1 hreader
    exact accounts_ofBytes data
  within := by
    intro reader hreader
    obtain rfl := List.mem_singleton.1 hreader
    exact List.infix_rfl
  nested := .whole rfl

theorem Moves.disciplined (h : s.Moves operation result s') (hs : s.Disciplined data) :
    s'.Disciplined data := by
  have hinside := List.forall_mem_cons.1 hs.inside
  have htop := List.forall_mem_cons.1 hs.accounts
  have hwithin := List.forall_mem_cons.1 hs.within
  cases h with
  | refused _ | kept _ => exact hs
  | answered advances covers =>
    constructor
    case inside => exact List.forall_mem_cons.2 ⟨advances.position_le hinside.1, hinside.2⟩
    case accounts => exact List.forall_mem_cons.2 ⟨htop.1.advance advances covers, htop.2⟩
    case within => exact List.forall_mem_cons.2 ⟨advances.data ▸ hwithin.1, hwithin.2⟩
    case nested => exact hs.nested.top advances.data
  | @entered piece next advances =>
    have hpiece : piece <:+: data := by
      have hrest : piece <:+: s.top.cursor.rest := advances.rest ▸ List.infix_append [] piece _
      have hdata : s.top.cursor.rest <:+: s.top.cursor.data := (List.drop_suffix _ _).isInfix
      exact (hrest.trans hdata).trans hwithin.1
    have covers : Covers (.sub piece.length) (.cursor (.ofBytes piece)) piece next.rest :=
      ⟨rfl, rfl⟩
    constructor
    case inside =>
      exact List.forall_mem_cons.2 ⟨Nat.zero_le _,
        List.forall_mem_cons.2 ⟨advances.position_le hinside.1, hinside.2⟩⟩
    case accounts =>
      exact List.forall_mem_cons.2 ⟨accounts_ofBytes piece,
        List.forall_mem_cons.2 ⟨htop.1.advance advances covers, htop.2⟩⟩
    case within =>
      exact List.forall_mem_cons.2 ⟨hpiece,
        List.forall_mem_cons.2 ⟨advances.data ▸ hwithin.1, hwithin.2⟩⟩
    case nested =>
      have hblock : piece <:+ next.consumed := advances.consumed_eq ▸ List.suffix_append _ _
      exact .block hblock (hs.nested.top advances.data)
  | @dropped reader below hbelow =>
    have hnested := hs.nested
    rw [readers, hbelow] at hnested
    rw [hbelow] at hinside htop hwithin
    exact ⟨hinside.2, htop.2, hwithin.2, hnested.of_cons⟩

theorem disciplined_run (hs : s.Disciplined data) (operations : List Operation) :
    (s.run operations).Disciplined data := by
  induction operations generalizing s with
  | nil => exact hs
  | cons operation operations ih => exact ih ((s.step_moves operation).disciplined hs)

/-- An operation that fails leaves every cursor where it is. -/
theorem Moves.eq_of_none (h : s.Moves operation none s') : s' = s := by
  cases h with
  | refused _ | kept _ => rfl

/-- The cursors at the bottom stay as they are until one of them is on top. -/
theorem Moves.isSuffix_below {below : List Reader} (h : s.Moves operation result s')
    (hbelow : below <:+ s.below) (hdepth : below.length ≤ s'.below.length) :
    below <:+ s'.below := by
  cases h with
  | refused _ | answered _ _ _ | kept _ => exact hbelow
  | entered _ => exact hbelow.trans (List.suffix_cons _ _)
  | dropped h =>
    rw [h] at hbelow
    rcases List.suffix_cons_iff.1 hbelow with rfl | hrest
    · exact absurd hdepth (Nat.not_succ_le_self _)
    · exact hrest

theorem isSuffix_below_run {below : List Reader} {operations : List Operation}
    (hbelow : below <:+ s.below)
    (hdepth : ∀ front, front <+: operations → below.length ≤ (s.run front).below.length) :
    below <:+ (s.run operations).below := by
  induction operations generalizing s with
  | nil => exact hbelow
  | cons operation operations ih =>
    have hstep : below.length ≤ (s.step operation).2.below.length :=
      hdepth [operation] (List.prefix_append [operation] operations)
    apply ih ((s.step_moves operation).isSuffix_below hbelow hstep)
    intro front hfront
    exact hdepth (operation :: front) ((List.prefix_cons_inj operation).2 hfront)

end Stack

/-- The next bytes, if there are so many, and the position then, worked out with numbers below a
limit. There is no result if a difference is negative, a sum too large, or a byte not there. -/
def takeWithin? (limit n : Nat) (data : Bytes) (position : Nat) :
    Option (Option Bytes × Nat) := do
  let remaining ← if position ≤ data.length then some (data.length - position) else none
  if remaining < n then return (none, position)
  let stop ← if position + n < limit then some (position + n) else none
  let piece ← if stop ≤ data.length then some ((data.take stop).drop position) else none
  return (some piece, stop)

theorem takeWithin?_eq {limit : Nat} (hinside : c.position ≤ c.data.length)
    (hlimit : c.data.length < limit) (n : Nat) :
    takeWithin? limit n c.data c.position = some ((c.take n).1, (c.take n).2.position) := by
  rw [takeWithin?, if_pos hinside]
  by_cases hshort : c.remaining < n
  · rw [take_of_lt hshort]
    exact if_pos hshort
  · have hstop : c.position + n ≤ c.data.length := by
      unfold remaining at hshort
      omega
    have hsum : c.position + n < limit := Nat.lt_of_le_of_lt hstop hlimit
    have hnot : ¬c.data.length - c.position < n := hshort
    have hpiece : (c.data.take (c.position + n)).drop c.position =
        (c.data.drop c.position).take n := by
      rw [List.drop_take, Nat.add_sub_cancel_left]
    rw [take_of_le hstop]
    simp only [Option.bind_eq_bind, Option.bind_some, hnot, if_false, hsum, if_true, hstop,
      hpiece, Option.pure_def]

/-- In every state that a run leads to, each cursor stands in its bytes, its answers went past just
those in front of it, and no number worked out for the next of them leaves the range that has room
for the length of the whole. What comes next moves the cursor on top by what its answer covers, or
fails and moves nothing; a cursor handed out is over just the next bytes, and until it is given up
the ones below it stay where they are. -/
theorem run_disciplined (data : Bytes) (operations : List Operation) :
    let s := (Stack.ofBytes data).run operations
    (∀ reader ∈ s.readers, ∃ consumed,
      Accounts reader.answers consumed reader.cursor.rest ∧
        consumed ++ reader.cursor.rest = reader.cursor.data ∧
        consumed.length = reader.cursor.position ∧
        reader.cursor.position ≤ reader.cursor.data.length ∧
        reader.cursor.position + reader.cursor.remaining = reader.cursor.data.length ∧
        ∀ limit n, data.length < limit →
          takeWithin? limit n reader.cursor.data reader.cursor.position =
            some ((reader.cursor.take n).1, (reader.cursor.take n).2.position)) ∧
    Nested data s.readers ∧
    (∀ operation, s.Moves operation (s.step operation).1 (s.step operation).2) ∧
    (∀ operation, (s.step operation).1 = none → (s.step operation).2 = s) ∧
    ∀ n inner s', s.step (.ask (.sub n)) = (some (.cursor inner), s') →
      inner = ofBytes (s.top.cursor.rest.take n) ∧ s'.top.cursor = inner ∧
      ∀ inside, (∀ front, front <+: inside → s.readers.length < (s'.run front).readers.length) →
        s'.below <:+ (s'.run inside).below := by
  intro s
  have hs : s.Disciplined data := Stack.disciplined_run (Stack.disciplined_ofBytes data) operations
  refine ⟨?_, hs.nested, s.step_moves, ?_, ?_⟩
  · intro reader hreader
    have hinside := hs.inside reader hreader
    refine ⟨reader.cursor.consumed, hs.accounts reader hreader, consumed_append_rest _,
      length_consumed hinside, hinside, Nat.add_sub_cancel' hinside, ?_⟩
    intro limit n hlimit
    have hshorter := (hs.within reader hreader).length_le
    exact takeWithin?_eq hinside (Nat.lt_of_le_of_lt hshorter hlimit) n
  · intro operation hnone
    have hmoves := s.step_moves operation
    rw [hnone] at hmoves
    exact hmoves.eq_of_none
  · intro n inner s' hstep
    have hmoves := s.step_moves (.ask (.sub n))
    rw [hstep] at hmoves
    cases hmoves with
    | answered _ _ outside => exact absurd rfl (outside n)
    | entered advances =>
      refine ⟨?_, rfl, ?_⟩
      · rw [advances.take_rest]
      · intro inside hdepth
        apply Stack.isSuffix_below_run List.suffix_rfl
        intro front hfront
        exact Nat.le_of_lt_succ (hdepth front hfront)

/-- Behind a length of two, a block of two bytes: what asks for three of them fails, what takes one
is answered, and the cursor around the block stays in front of the last byte. -/
theorem run_disciplined_block :
    let s := (Stack.ofBytes [0, 2, 9, 9, 7]).run [.ask (.number 2)]
    let s' := (s.step (.ask (.sub 2))).2
    let inside := [Operation.ask (.skip 3), .ask (.take 1)]
    takeWithin? 6 3 s.top.cursor.data s.top.cursor.position = some (some [9, 9, 7], 5) ∧
      s.step (.ask (.sub 2)) = (some (.cursor (ofBytes [9, 9])), s') ∧
      (∀ front, front <+: inside → s.readers.length < (s'.run front).readers.length) ∧
      s'.below <:+ (s'.run inside).below := by
  intro s s' inside
  obtain ⟨hreaders, -, -, -, hblock⟩ :=
    run_disciplined [0, 2, 9, 9, 7] [.ask (.number 2)]
  obtain ⟨_, -, -, -, -, -, hwithin⟩ := hreaders s.top List.mem_cons_self
  have hstep : s.step (.ask (.sub 2)) = (some (.cursor (ofBytes [9, 9])), s') := rfl
  have hstays : ∀ front, front <+: inside → s.readers.length < (s'.run front).readers.length := by
    have hall : ∀ front ∈ inside.inits, s.readers.length < (s'.run front).readers.length := by
      decide
    exact fun front hfront => hall front ((List.mem_inits front inside).2 hfront)
  exact ⟨hwithin 6 3 (by decide), hstep, hstays, (hblock 2 _ s' hstep).2.2 inside hstays⟩

end TunnelFirewall.Cursor
