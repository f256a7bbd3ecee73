/-
The path of a value in a message.

A path names one segment after another, with dots between them. What it stands for is a matter of the message alone:
`Json.Reaches` says which value the segments lead to, each of them to a member of an object or to an item of a list.
`Dotted` says how segments are written down as a path: where a dot may stand, several may. The code cuts a path at every
dot and skips the pieces that are empty, so it finds the segments again however they were written; the other way round,
segments that are joined by single dots are told apart because none of them contains a dot.

The text `msg.` in front of a path is taken off once. A path without it is mistaken for one with it only if its first
segment is `msg` and others follow.

- `select?_eq_some_iff`, `descend?_eq_some_iff`: the code walks as `Reaches` says;
- `pathSegments_of_dotted`: segments are found again.

Results: `message_paths_reach_every_value`. Witness `voltage_of_the_second_point`.
-/
import CalBench.Proofs.Latest
import CalBench.Proofs.Number.Numeral
import CalBench.Sequence.Context

namespace CalBench

/-! ## Steps into a value -/

namespace Json

/-- a text is the position of an item: a number in digits that fits 64 bits, perhaps with a plus sign -/
def Position (segment : String) (i : Nat) : Prop :=
  i < 2 ^ 64 ∧ ∃ digits, Number.Numeral digits i ∧ (segment.toList = digits ∨ segment.toList = '+' :: digits)

inductive Selects (segment : String) : Json → Json → Prop
  /-- the last member with that name counts -/
  | member {members : List (String × Json)} {j : Json} (h : Latest (fun m => m.1 = segment) members (segment, j)) :
    Selects segment (.obj members) j
  | item {items : List Json} {i : Nat} {j : Json} (hi : Position segment i) (h : items[i]? = some j) :
    Selects segment (.arr items) j

inductive Reaches : List String → Json → Json → Prop
  | here (j : Json) : Reaches [] j j
  | step {segment : String} {rest : List String} {root part j : Json} (h : Selects segment root part)
    (hrest : Reaches rest part j) : Reaches (segment :: rest) root j

theorem member?_eq_some_iff {members : List (String × Json)} {name : String} {j : Json} :
    (obj members).member? name = some j ↔ Latest (fun m => m.1 = name) members (name, j) := by
  simp only [member?, Option.map_eq_some_iff, find?_reverse_eq_some_iff, beq_iff_eq]
  constructor
  · rintro ⟨⟨name', j'⟩, h, rfl⟩
    obtain rfl : name' = name := h.mem.2
    exact h
  · exact fun h => ⟨_, h, rfl⟩

theorem position_iff {segment : String} {i : Nat} :
    Number.naturalUpTo? (Nat.pow 2 64 - 1) segment = some i ↔ Position segment i := by
  rw [Number.naturalUpTo?_eq_some_iff]
  exact and_congr_left fun _ => Nat.le_sub_one_iff_lt (by decide)

theorem select?_eq_some_iff {segment : String} {root part : Json} :
    root.select? segment = some part ↔ Selects segment root part := by
  cases root with
  | obj members =>
    rw [select?, member?_eq_some_iff]
    exact ⟨.member, fun | .member h => h⟩
  | arr items =>
    simp only [select?, Option.bind_eq_some_iff, position_iff]
    exact ⟨fun ⟨i, hi, h⟩ => .item hi h, fun | .item hi h => ⟨_, hi, h⟩⟩
  | null | bool | int | float | str => exact ⟨nofun, nofun⟩

/-- **The segments of a path lead where they are followed to** -/
theorem descend?_eq_some_iff {segments : List String} {root j : Json} :
    root.descend? segments = some j ↔ Reaches segments root j := by
  induction segments generalizing root with
  | nil => exact ⟨fun h => Option.some.inj h ▸ .here _, fun | .here _ => rfl⟩
  | cons segment rest ih =>
    simp only [descend?, Option.bind_eq_some_iff, select?_eq_some_iff, ih]
    exact ⟨fun ⟨_, h, hrest⟩ => .step h hrest, fun | .step h hrest => ⟨_, h, hrest⟩⟩

end Json

/-! ## Paths as texts -/

/-- a text can stand between two dots -/
def Segment (s : String) : Prop := s ≠ "" ∧ '.' ∉ s.toList

instance : DecidablePred Segment := fun s => inferInstanceAs (Decidable (s ≠ "" ∧ '.' ∉ s.toList))

/-- a path holds these segments, with any number of dots between two of them, in front and behind -/
inductive Dotted : List String → String → Prop
  | empty : Dotted [] ""
  | dot {segments : List String} {path : String} (h : Dotted segments path) : Dotted segments ("." ++ path)
  | last {s : String} (hs : Segment s) : Dotted [s] s
  | piece {s : String} {segments : List String} {path : String} (hs : Segment s) (h : Dotted segments path) :
    Dotted (s :: segments) (s ++ "." ++ path)

theorem toList_piece (s path : String) : (s ++ "." ++ path).toList = s.toList ++ '.' :: path.toList := by
  rw [String.toList_append, String.toList_append, List.append_assoc]
  rfl

theorem dotted_intercalate {segments : List String} (h : ∀ s ∈ segments, Segment s) :
    Dotted segments (".".intercalate segments) := by
  induction segments with
  | nil => exact .empty
  | cons s rest ih =>
    obtain ⟨hs, hrest⟩ := List.forall_mem_cons.1 h
    cases rest with
    | nil => exact String.intercalate_singleton ▸ .last hs
    | cons next rest => exact String.intercalate_cons_cons ▸ .piece hs (ih hrest)

theorem splitDots_ne_nil (path : List Char) : splitDots path ≠ [] := by
  fun_cases splitDots path <;> nofun

theorem splitDots_of_not_mem {piece : List Char} (h : '.' ∉ piece) : splitDots piece = [piece] := by
  induction piece with
  | nil => rfl
  | cons c rest ih =>
    obtain ⟨hc, hrest⟩ := not_or.1 (mt List.mem_cons.2 h)
    simp only [splitDots, Ne.symm hc, if_false, ih hrest]

theorem splitDots_append {piece : List Char} (h : '.' ∉ piece) (path : List Char) :
    splitDots (piece ++ '.' :: path) = piece :: splitDots path := by
  induction piece with
  | nil => rfl
  | cons c rest ih =>
    obtain ⟨hc, hrest⟩ := not_or.1 (mt List.mem_cons.2 h)
    simp only [List.cons_append, splitDots, Ne.symm hc, if_false, ih hrest]

theorem splitDots_intercalate {segments : List String} (hne : segments ≠ []) (h : ∀ s ∈ segments, Segment s) :
    splitDots (".".intercalate segments).toList = segments.map String.toList := by
  induction segments with
  | nil => exact absurd rfl hne
  | cons s rest ih =>
    obtain ⟨hs, hrest⟩ := List.forall_mem_cons.1 h
    cases rest with
    | nil => rw [String.intercalate_singleton, splitDots_of_not_mem hs.2]; rfl
    | cons next rest =>
      rw [String.intercalate_cons_cons, toList_piece, splitDots_append hs.2, ih (List.cons_ne_nil _ _) hrest]
      rfl

/-! ### Empty pieces are skipped -/

theorem pathSegments_dot (path : List Char) : pathSegments ('.' :: path) = pathSegments path := rfl

theorem pathSegments_last {s : String} (h : Segment s) : pathSegments s.toList = [s] := by
  simp [pathSegments, splitDots_of_not_mem h.2, h.1]

theorem pathSegments_piece {s : String} (h : Segment s) (path : List Char) :
    pathSegments (s.toList ++ '.' :: path) = s :: pathSegments path := by
  simp [pathSegments, splitDots_append h.2, h.1]

/-- **The segments of a path are those that were written down** -/
theorem pathSegments_of_dotted {segments : List String} {path : String} (h : Dotted segments path) :
    pathSegments path.toList = segments := by
  induction h with
  | empty => rfl
  | @dot segments path h ih =>
    rw [String.toList_append]
    exact (pathSegments_dot path.toList).trans ih
  | last hs => exact pathSegments_last hs
  | piece hs h ih => rw [toList_piece, pathSegments_piece hs, ih]

/-! ### The prefix -/

theorem messagePath_msg (path : String) : messagePath ("msg." ++ path).toList = path.toList := by
  rw [String.toList_append]
  rfl

/-- only what begins with a piece `msg` and goes on after it loses the prefix -/
theorem messagePath_eq_self {path : List Char}
    (h : ∀ pieces, pieces ≠ [] → splitDots path ≠ "msg".toList :: pieces) : messagePath path = path := by
  unfold messagePath
  split
  · rename_i rest
    exact absurd rfl (h (splitDots rest) (splitDots_ne_nil rest))
  · rfl

theorem messagePath_intercalate {segments : List String} (hne : segments ≠ []) (h : ∀ s ∈ segments, Segment s)
    (hmsg : ¬ (2 ≤ segments.length ∧ segments.head? = some "msg")) :
    messagePath (".".intercalate segments).toList = (".".intercalate segments).toList := by
  refine messagePath_eq_self fun pieces hpieces heq => hmsg ?_
  rw [splitDots_intercalate hne h] at heq
  obtain ⟨first, rest, rfl, hfirst, rfl⟩ := List.map_eq_cons_iff.1 heq
  have hrest : rest ≠ [] := fun hnil => hpieces (congrArg (List.map String.toList) hnil)
  exact ⟨Nat.succ_le_succ (List.length_pos_iff.2 hrest), congrArg some (String.toList_inj.1 hfirst)⟩

/-! ## Results -/

theorem Context.resolve_msg (ctx : Context) (path : String) :
    ctx.resolve .msg (some (.str path)) = ctx.message.descend? (pathSegments (messagePath path.toList)) := rfl

theorem Context.resolve_dotted (ctx : Context) {segments : List String} {path : String} (h : Dotted segments path) :
    ctx.resolve .msg (some (.str ("msg." ++ path))) = ctx.message.descend? segments := by
  rw [resolve_msg, messagePath_msg, pathSegments_of_dotted h]

/-- **Message paths reach every value**: a path of segments behind `msg.` stands for the value that they lead to, and
for none if they lead nowhere. The path without `msg.` stands for the same, unless its first segment is `msg` and not
its only one. Nor does it matter how many dots stand between segments, in front of them and behind. -/
theorem message_paths_reach_every_value (ctx : Context) {segments : List String} (hne : segments ≠ [])
    (hsegments : ∀ s ∈ segments, Segment s) :
    (∀ j, ctx.resolve .msg (some (.str ("msg." ++ ".".intercalate segments))) = some j ↔
      Json.Reaches segments ctx.message j) ∧
    (¬ (2 ≤ segments.length ∧ segments.head? = some "msg") →
      ctx.resolve .msg (some (.str (".".intercalate segments))) =
        ctx.resolve .msg (some (.str ("msg." ++ ".".intercalate segments)))) ∧
    ∀ path, Dotted segments path →
      ctx.resolve .msg (some (.str ("msg." ++ path))) =
        ctx.resolve .msg (some (.str ("msg." ++ ".".intercalate segments))) := by
  have hjoined := dotted_intercalate hsegments
  rw [ctx.resolve_dotted hjoined]
  refine ⟨fun j => Json.descend?_eq_some_iff, fun hmsg => ?_, fun path hpath => ctx.resolve_dotted hpath⟩
  rw [ctx.resolve_msg, messagePath_intercalate hne hsegments hmsg, pathSegments_of_dotted hjoined]

/-- The voltage of the second point. The message also has a member named `msg`, which needs the prefix. -/
theorem voltage_of_the_second_point :
    let points := Json.arr [.int 5, .obj [("volts", .int 10)]]
    let message := Json.obj [("points", points), ("msg", .obj [("points", .null)])]
    let at? (path : String) := ({ message } : Context).resolve .msg (some (.str path))
    at? "msg.points.+1.volts" = some (.int 10) ∧ at? "points.+1.volts" = some (.int 10) ∧
      at? "msg...points.+1..volts." = some (.int 10) ∧
      at? "msg.points" = some points ∧ at? "msg.msg.points" = some .null := by
  intro points message at?
  have hsegments : ∀ s ∈ ["points", "+1", "volts"], Segment s := by decide
  obtain ⟨hreached, hsame, hdots⟩ :=
    message_paths_reach_every_value { message } (List.cons_ne_nil _ _) hsegments
  have hpath : ".".intercalate ["points", "+1", "volts"] = "points.+1.volts" := by decide
  have hposition : Json.Position "+1" 1 := Json.position_iff.1 (by decide)
  have hreaches : Json.Reaches ["points", "+1", "volts"] message (.int 10) :=
    .step (.member ⟨[], _, rfl, rfl, by decide⟩) (.step (.item hposition rfl)
      (.step (.member ⟨[], [], rfl, rfl, nofun⟩) (.here _)))
  have hdotted : Dotted ["points", "+1", "volts"] "..points.+1..volts." := by
    have hvolts : Dotted ["volts"] ("volts" ++ "." ++ "") := .piece (by decide) .empty
    have hrest : Dotted ["+1", "volts"] ("+1" ++ "." ++ ("." ++ ("volts" ++ "." ++ ""))) :=
      .piece (by decide) (.dot hvolts)
    exact .dot (.dot (.piece (by decide) hrest))
  have hvalue := (hreached (.int 10)).2 hreaches
  have hbare := (hsame (by decide)).trans hvalue
  have hmany := (hdots _ hdotted).trans hvalue
  rw [hpath] at hvalue hbare
  exact ⟨hvalue, hbare, hmany, rfl, rfl⟩

end CalBench
