/-
Group triggers of a controller box.

A box takes at most fifteen addresses in one trigger command, so the addresses of a longer list go out in several lines,
one after another, up to the first that fails. A line that fails may still have been sent in part.

`Wire.Carries` is all that is asked of a wire here: what was sent without a failure has arrived, and of what failed some
front part. Wires that carry a line as a whole or not at all, as scripted peers do, are among these
(`Wire.Hears.carries`). `BoxMessage.triggered?` is how a box takes a trigger command apart: words between blanks, the
first of them the command, the others addresses in digits.

- `CutInto`, `cut_pieces`: the groups are the list cut into pieces of fifteen, and only the last may be shorter;
- `CutInto.upTo`: the pieces up to some point cover the list up to a multiple of the length;
- `triggered?_triggerMessage`: the addresses of a group are read back from its command;
- `hear_lines_append`, `hear_part`: lines are heard whatever follows them, and no command is heard of a part of a line.

Results:
- `triggers_cover_addresses_in_order`: whatever comes of a trigger, the box hears trigger commands of at most fifteen
  addresses, all but the last of exactly fifteen, that cover the list up to the end of a group, and all of it if the
  trigger does not fail.
Witness `cut_trigger_covers_a_group`: a wire that breaks within the second line.
-/
import CalBench.Proofs.Link.Dialogue
import CalBench.Proofs.Number.Numeral
import Mathlib.Data.List.Infix

namespace CalBench

/-! ## Pieces of a list -/

/-- a list is cut into pieces of a length, of which only the last may be shorter -/
structure CutInto {α : Type} (size : Nat) (l : List α) (pieces : List (List α)) : Prop where
  whole : pieces.flatten = l
  bounded : ∀ p ∈ pieces, 1 ≤ p.length ∧ p.length ≤ size
  full : ∀ p ∈ pieces.dropLast, p.length = size

section Cutting

variable {α : Type} {size : Nat} {l : List α} {pieces front : List (List α)}

theorem CutInto.cons (h : CutInto size (l.drop size) pieces) (hsize : 0 < size) (hlong : size < l.length) :
    CutInto size l (l.take size :: pieces) := by
  have htake : (l.take size).length = size := by rw [List.length_take]; omega
  have hne : pieces ≠ [] := by
    rintro rfl
    have hdrop : l.drop size = [] := h.whole.symm
    rw [List.drop_eq_nil_iff] at hdrop
    omega
  refine ⟨?_, ?_, ?_⟩
  · rw [List.flatten_cons, h.whole, List.take_append_drop]
  · intro p hp
    rcases List.mem_cons.1 hp with rfl | hp
    · omega
    · exact h.bounded p hp
  · intro p hp
    rw [List.dropLast_cons_of_ne_nil hne] at hp
    rcases List.mem_cons.1 hp with rfl | hp
    · exact htake
    · exact h.full p hp

/-- as many cuts are allowed as the list is long, which is enough -/
theorem cut_pieces (hsize : 0 < size) {count : Nat} (hcount : l.length ≤ count) :
    CutInto size l (Controller.pieces size count l) := by
  fun_induction Controller.pieces size count l with
  | case1 => exact ⟨rfl, by simp, by simp⟩
  | case2 l hne => exact absurd (List.length_eq_zero_iff.1 (Nat.le_zero.1 hcount)) hne
  | case3 count l hne hshort =>
    have hpos : 0 < l.length := List.length_pos_iff.2 hne
    exact ⟨by simp, by simpa using ⟨hpos, hshort⟩, by simp⟩
  | case4 count l hne hlong ih =>
    apply CutInto.cons _ hsize (Nat.lt_of_not_le hlong)
    apply ih
    rw [List.length_drop]
    omega

/-- the pieces up to some point are all of them, or all of the full length -/
theorem CutInto.all_or_full (h : CutInto size l pieces) (hfront : front <+: pieces) :
    front = pieces ∨ ∀ p ∈ front, p.length = size := by
  rcases List.eq_nil_or_concat pieces with rfl | ⟨init, last, rfl⟩
  · exact .inl (List.prefix_nil.1 hfront)
  · rw [List.concat_eq_append] at hfront h ⊢
    rcases List.prefix_concat_iff.1 hfront with hall | hinit
    · exact .inl hall
    · refine .inr fun p hp => h.full p ?_
      rw [List.dropLast_concat]
      exact hinit.subset hp

theorem length_flatten_le (h : ∀ p ∈ pieces, p.length ≤ size) : pieces.flatten.length ≤ size * pieces.length := by
  induction pieces with
  | nil => simp
  | cons p rest ih =>
    obtain ⟨hp, hrest⟩ := List.forall_mem_cons.1 h
    have hlength := ih hrest
    rw [List.flatten_cons, List.length_append, List.length_cons, Nat.mul_succ]
    omega

theorem length_flatten_full (h : ∀ p ∈ pieces, p.length = size) : pieces.flatten.length = size * pieces.length := by
  rw [List.length_flatten, List.map_congr_left h, List.map_const', List.sum_replicate_nat, Nat.mul_comm]

/-- **The pieces up to some point cover the list up to a multiple of the length** -/
theorem CutInto.upTo (h : CutInto size l pieces) (hfront : front <+: pieces) :
    CutInto size (l.take (size * front.length)) front := by
  have hprefix : front.flatten <+: l := h.whole ▸ hfront.flatten
  have hlength : l.take (size * front.length) = front.flatten := by
    rcases h.all_or_full hfront with rfl | hfull
    · have hle : front.flatten.length ≤ size * front.length := length_flatten_le fun p hp => (h.bounded p hp).2
      rw [h.whole] at hle ⊢
      exact List.take_of_length_le hle
    · rw [List.prefix_iff_eq_take.1 hprefix, length_flatten_full hfull]
  refine ⟨hlength.symm, fun p hp => h.bounded p (hfront.subset hp), fun p hp => ?_⟩
  rcases h.all_or_full hfront with rfl | hfull
  · exact h.full p hp
  · exact hfull p (List.mem_of_mem_dropLast hp)

end Cutting

/-! ## Trigger commands -/

/-- a plain character is written as one byte -/
theorem utf8Char_plain {c : Char} (h : c.toNat < 128) :
    Text.utf8Char c = [c.toNat.toUInt8] ∧ c.toNat.toUInt8.toNat = c.toNat := by
  refine ⟨by simp [Text.utf8Char, h], ?_⟩
  rw [Nat.toUInt8, UInt8.toNat_ofNat']
  omega

/-- a text of plain characters is read back from its bytes -/
theorem decodeLossy_utf8 {s : String} (h : ∀ c ∈ s.toList, c.toNat < 128) : Text.decodeLossy (Text.utf8 s) = s := by
  suffices hlist : ∀ cs : List Char, (∀ c ∈ cs, c.toNat < 128) →
      Text.decodeFrom none (cs.flatMap Text.utf8Char) = cs by
    rw [Text.decodeLossy, Text.utf8, hlist s.toList h, String.ofList_toList]
  intro cs hcs
  induction cs with
  | nil => rfl
  | cons c rest ih =>
    obtain ⟨hc, hrest⟩ := List.forall_mem_cons.1 hcs
    obtain ⟨hone, hbyte⟩ := utf8Char_plain hc
    have hplain : c.toNat.toUInt8 < 0x80 := by
      rw [UInt8.lt_iff_toNat_lt, hbyte]
      exact hc
    rw [List.flatMap_cons, hone, List.singleton_append, Text.decodeFrom, if_pos hplain, hbyte, Char.ofNat_toNat,
      ih hrest]

/-- words with blanks between them, as bytes -/
theorem utf8_intercalate (words : List String) :
    Text.utf8 (" ".intercalate words) = [32].intercalate (words.map Text.utf8) := by
  induction words with
  | nil => rfl
  | cons w rest ih =>
    cases rest with
    | nil => rw [String.intercalate_singleton, List.map_singleton, List.intercalate_singleton]
    | cons next rest =>
      rw [String.intercalate_cons_cons, Controller.utf8_append, Controller.utf8_append, ih]
      simp only [List.map_cons, List.intercalate_cons_cons]
      rfl

namespace BoxMessage

def address? (word : Bytes) : Option UInt8 :=
  (Number.naturalUpTo? 255 (Text.decodeLossy word)).map Nat.toUInt8

/-- the addresses that a message triggers, if it is a trigger command: they are the words behind the first one -/
def triggered? : BoxMessage → Option (List UInt8)
  | .command text =>
    match text.splitOn 32 with
    | [] => none
    | word :: words => if word = Text.utf8 "++trg" then words.mapM address? else none
  | .data _ => none

/-! ### Lines that are heard -/

/-- whole lines are heard, whatever follows them -/
theorem hear_lines_append {messages : List BoxMessage} (h : ∀ m ∈ messages, m.Sound) (rest : Bytes) :
    hear (messages.flatMap line ++ rest) = (messages ++ (hear rest).1, (hear rest).2) := by
  induction messages with
  | nil => rfl
  | cons m messages ih =>
    obtain ⟨hm, hmessages⟩ := List.forall_mem_cons.1 h
    have ih := ih hmessages
    simp only [hear, Prod.mk.injEq] at ih
    simp only [hear, List.flatMap_cons, List.append_assoc, unquote_line hm, lines_ended (stop_not_mem_onLine hm),
      List.nil_append, List.map_cons, ofLine_onLine hm, List.cons_append, ih.1, ih.2]

/-- nothing is heard of a line that has not ended -/
theorem hear_of_no_stop {part : Bytes} (hescape : Controller.escapeByte ∉ part) (hstop : 10 ∉ part) :
    (hear part).1 = [] := by
  have hquiet : ∀ l before : List LineByte, .stop ∉ l → lines before l = ([], before ++ l) := by
    intro l
    induction l with
    | nil => simp [lines]
    | cons b l ih =>
      intro before hl
      obtain ⟨hb, hl⟩ := List.ne_and_not_mem_of_not_mem_cons hl
      simp [lines, Ne.symm hb, ih _ hl]
  have hplain : unquote false part = plainText part := by
    simpa [unquote] using unquote_text hescape []
  have hnone : .stop ∉ plainText part := by simpa [plainText, LineByte.stop] using hstop
  simp [hear, hplain, hquiet _ _ hnone]

/-- of a part of a command's line, nothing is heard, or the command if that is the whole line -/
theorem hear_part {text part : Bytes} (h : (command text).Sound) (hpart : part <+: (command text).line) :
    (hear part).1 = [] ∨ hear part = ([command text], []) := by
  rcases List.prefix_concat_iff.1 hpart with rfl | hpart
  · right
    have hwhole := hear_lines (List.forall_mem_singleton.2 h)
    rwa [List.flatMap_singleton] at hwhole
  · left
    exact hear_of_no_stop (fun hmem => h.2.1 (hpart.subset hmem)) fun hmem => h.2.2 (hpart.subset hmem)

end BoxMessage

namespace Controller

open BoxMessage

/-- an address is read back from its digits -/
theorem address?_natText (a : UInt8) : address? (Text.utf8 (Number.natText a.toNat)) = some a := by
  have hplain : ∀ c ∈ (Number.natText a.toNat).toList, c.toNat < 128 :=
    fun c hc => (printable_natText a.toNat c hc).2
  have hread : Number.naturalUpTo? 255 (Number.natText a.toNat) = some a.toNat := by
    have hlt := a.toNat_lt
    exact Number.naturalUpTo?_eq_some_iff.2
      ⟨by omega, _, Number.numeral_digits a.toNat, .inl String.toList_ofList⟩
  rw [address?, decodeLossy_utf8 hplain, hread]
  simp

theorem blank_not_mem_natText (n : Nat) : 32 ∉ Text.utf8 (Number.natText n) := by
  intro hblank
  obtain ⟨c, hc, hbyte⟩ := List.mem_flatMap.1 hblank
  have hdigit := digit_of_mem_natText hc
  obtain ⟨hone, hvalue⟩ := utf8Char_plain (printable_natText n c hc).2
  rw [hone, List.mem_singleton] at hbyte
  have hspace : 32 = c.toNat := by rw [← hvalue, ← hbyte]; rfl
  omega

def triggerMessage (group : List UInt8) : BoxMessage := say ("++trg " ++ addressList group)

theorem sound_triggerMessage (group : List UInt8) : (triggerMessage group).Sound :=
  sound_say (by decide) (printable_addressList group)

/-- **The addresses of a group are read back from its command** -/
theorem triggered?_triggerMessage {group : List UInt8} (hne : group ≠ []) :
    triggered? (triggerMessage group) = some group := by
  obtain ⟨a, rest, rfl⟩ := List.exists_cons_of_ne_nil hne
  let words := (a :: rest).map fun a => Number.natText a.toNat
  have htext : "++trg " ++ addressList (a :: rest) = " ".intercalate ("++trg" :: words) := by
    simp only [addressList, words, List.map_cons, String.intercalate_cons_cons]
    rfl
  have hsplit : (Text.utf8 ("++trg " ++ addressList (a :: rest))).splitOn 32 =
      Text.utf8 "++trg" :: words.map Text.utf8 := by
    rw [htext, utf8_intercalate, List.map_cons]
    apply List.splitOn_intercalate
    · intro word hword
      rcases List.mem_cons.1 hword with rfl | hword
      · decide
      · simp only [words, List.map_map, List.mem_map] at hword
        obtain ⟨b, -, rfl⟩ := hword
        exact blank_not_mem_natText b.toNat
    · exact List.cons_ne_nil _ _
  have hread (l : List UInt8) : (l.map fun a => Text.utf8 (Number.natText a.toNat)).mapM address? = some l := by
    induction l with
    | nil => rfl
    | cons b l ih => simp [ih, address?_natText]
  simp only [triggered?, triggerMessage, say, hsplit, if_true, words, List.map_map]
  exact hread (a :: rest)

end Controller

/-! ## Sending -/

/-- a view of wires as what their far ends have heard; what could not be sent may be heard in part -/
structure Wire.Carries {ω : Type} [Wire ω] (heard : ω → Bytes) : Prop where
  sent : ∀ data w, (Wire.send data w).2 = .ok () → heard (Wire.send data w).1 = heard w ++ data
  cut : ∀ data w e, (Wire.send data w).2 = .error e →
    ∃ part, part <+: data ∧ heard (Wire.send data w).1 = heard w ++ part

/-- a wire that carries a line as a whole or not at all is one of these -/
theorem Wire.Hears.carries {ω : Type} [Wire ω] {heard : ω → Bytes} (h : Wire.Hears heard) : Wire.Carries heard where
  sent := h.sent
  cut data w e he := ⟨[], List.nil_prefix, by rw [h.unsent data w e he, List.append_nil]⟩

section Sending

variable {ω : Type} [Wire ω] {heard : ω → Bytes}

namespace Controller

open BoxMessage

/-- a command arrives, or it fails and a part of its line arrives -/
theorem command_carried (hwire : Wire.Carries heard) (s : String) (d : Controller ω) :
    ((command s d).result = .ok () ∧ heard (command s d).link.wire = heard d.wire ++ (say s).line) ∨
      ∃ e part, (command s d).result = .error e ∧ part <+: (say s).line ∧
        heard (command s d).link.wire = heard d.wire ++ part := by
  have h := sendRaw_apply (say s).line d
  rw [show sendRaw (say s).line d = command s d from rfl] at h
  rw [h]
  by_cases hopen : d.connected = true
  · simp only [hopen, if_true]
    cases hsent : (Wire.send (say s).line d.wire).2 with
    | ok u => exact .inl ⟨rfl, hwire.sent _ _ hsent⟩
    | error e =>
      obtain ⟨part, hpart, hheard⟩ := hwire.cut _ _ e hsent
      exact .inr ⟨e, part, rfl, hpart, hheard⟩
  · rw [if_neg hopen]
    exact .inr ⟨.notConnected, [], rfl, List.nil_prefix, by simp⟩

/-- **The box hears the commands of the groups up to some point**, and of all groups unless a line fails -/
theorem triggerEach_heard (hwire : Wire.Carries heard) (groups : List (List UInt8)) (d : Controller ω) :
    ∃ news front, heard (triggerEach groups d).link.wire = heard d.wire ++ news ∧ front <+: groups ∧
      (hear news).1 = front.map triggerMessage ∧
      ((triggerEach groups d).result = .ok () → front = groups ∧ (hear news).2 = []) := by
  induction groups generalizing d with
  | nil => exact ⟨[], [], by simp [triggerEach], List.prefix_rfl, rfl, fun _ => ⟨rfl, rfl⟩⟩
  | cons group rest ih =>
    have hsound := sound_triggerMessage group
    rcases command_carried hwire ("++trg " ++ addressList group) d with
      ⟨hok, hheard⟩ | ⟨e, part, hfailed, hpart, hheard⟩
    · -- the first command has arrived, and the others follow
      obtain ⟨hresult, hlink⟩ := Attempt.bind_succeeds hok fun _ => triggerEach rest
      obtain ⟨news, front, hnews, hfront, hmessages, hall⟩ := ih (command ("++trg " ++ addressList group) d).link
      have hboth := hear_lines_append (List.forall_mem_singleton.2 hsound) news
      rw [List.flatMap_singleton] at hboth
      refine ⟨(triggerMessage group).line ++ news, group :: front, ?_, List.cons_prefix_cons.2 ⟨rfl, hfront⟩, ?_, ?_⟩
      · rw [triggerEach, hlink, hnews, hheard, List.append_assoc]
        rfl
      · rw [hboth, hmessages]
        rfl
      · intro hdone
        rw [triggerEach, hresult] at hdone
        obtain ⟨rfl, hrest⟩ := hall hdone
        rw [hboth]
        exact ⟨rfl, hrest⟩
    · -- the first command has failed, and nothing follows it
      obtain ⟨hresult, hlink⟩ := Attempt.bind_fails hfailed fun _ => triggerEach rest
      have hstuck : (triggerEach (group :: rest) d).result ≠ .ok () := by
        rw [triggerEach, hresult]
        nofun
      have hheard : heard (triggerEach (group :: rest) d).link.wire = heard d.wire ++ part := by
        rw [triggerEach, hlink, hheard]
      rcases hear_part hsound hpart with hnone | hone
      · exact ⟨part, [], hheard, List.nil_prefix, hnone, fun hok => absurd hok hstuck⟩
      · exact ⟨part, [group], hheard, List.cons_prefix_cons.2 ⟨rfl, List.nil_prefix⟩, by rw [hone]; rfl,
          fun hok => absurd hok hstuck⟩

end Controller

/-- **A trigger neither loses nor repeats an address.**

Whatever comes of triggering a list of devices, what the box hears are trigger commands, and the addresses read back
from them are cut from the front of the list: each command has between one and fifteen of them, all but the last have
exactly fifteen, and together they are the list up to the end of a group, in its order. If no line fails, they are the
whole list, and no line is left without its end. -/
theorem triggers_cover_addresses_in_order (hwire : Wire.Carries heard) {addresses : List UInt8}
    (hne : addresses ≠ []) (d : Controller ω) :
    ∃ news groups, heard (Controller.call (.trigger addresses) d).link.wire = heard d.wire ++ news ∧
      (BoxMessage.hear news).1.map BoxMessage.triggered? = groups.map some ∧
      CutInto 15 (addresses.take (15 * groups.length)) groups ∧
      ((Controller.call (.trigger addresses) d).result = .ok () →
        groups.flatten = addresses ∧ (BoxMessage.hear news).2 = []) := by
  have hcall : Controller.call (.trigger addresses) d =
      Controller.triggerEach (Controller.triggerGroups addresses) d := by
    obtain ⟨a, rest, rfl⟩ := List.exists_cons_of_ne_nil hne
    rfl
  have hcut : CutInto 15 addresses (Controller.triggerGroups addresses) := cut_pieces (by decide) (Nat.le_refl _)
  obtain ⟨news, groups, hheard, hfront, hmessages, hall⟩ :=
    Controller.triggerEach_heard hwire (Controller.triggerGroups addresses) d
  rw [hcall]
  refine ⟨news, groups, hheard, ?_, hcut.upTo hfront, ?_⟩
  · rw [hmessages, List.map_map]
    apply List.map_congr_left
    intro group hgroup
    apply Controller.triggered?_triggerMessage
    exact List.ne_nil_of_length_pos (hcut.bounded group (hfront.subset hgroup)).1
  · intro hok
    obtain ⟨rfl, hended⟩ := hall hok
    exact ⟨hcut.whole, hended⟩

end Sending

/-! ## A wire that breaks within a line -/

/-- a wire that takes so many bytes more, and then breaks -/
structure FrayedWire where
  room : Nat
  arrived : Bytes := []
deriving DecidableEq, Repr

instance : Wire FrayedWire where
  dial w := (w, none)
  send data w :=
    ({ room := w.room - data.length, arrived := w.arrived ++ data.take w.room },
      if data.length ≤ w.room then .ok () else .error (.io "broken pipe"))
  hangUp w := w
  incoming _ := []
  putBack _ w := w

theorem carries_frayedWire : Wire.Carries FrayedWire.arrived where
  sent data w h := by
    have hroom : data.length ≤ w.room := by
      by_contra hshort
      simp [Wire.send, hshort] at h
    simp [Wire.send, List.take_of_length_le hroom]
  cut data w _ _ := ⟨data.take w.room, List.take_prefix _ _, rfl⟩

/-- a box behind a wire that breaks within the second of two lines -/
def frayedBox : Controller FrayedWire :=
  { name := "Box", endpoint := .usb { path := "/dev/ttyUSB0" }, wire := { room := 48 }, connected := true }

def seventeen : List UInt8 := [1, 2, 3, 4, 5, 6, 7, 8, 9, 10, 11, 12, 13, 14, 15, 16, 17]

/-- **A line that breaks off triggers nobody**: of two groups the first is triggered, and the command for the second has
not ended -/
theorem cut_trigger_covers_a_group :
    seventeen ≠ [] ∧ (Controller.call (.trigger seventeen) frayedBox).result = .error (.io "broken pipe") ∧
      ∃ (news : Bytes) (groups : List (List UInt8)),
        (Controller.call (.trigger seventeen) frayedBox).link.wire.arrived = news ∧
        (BoxMessage.hear news).1.map BoxMessage.triggered? = groups.map some ∧ groups.length = 1 ∧
        groups.flatten = [1, 2, 3, 4, 5, 6, 7, 8, 9, 10, 11, 12, 13, 14, 15] ∧ (BoxMessage.hear news).2 ≠ [] := by
  have hne : seventeen ≠ [] := by decide
  obtain ⟨news, groups, hheard, hread, hcut, -⟩ := triggers_cover_addresses_in_order carries_frayedWire hne frayedBox
  have hnews : (Controller.call (.trigger seventeen) frayedBox).link.wire.arrived = news := hheard
  have hmessages : (BoxMessage.hear news).1.length = 1 ∧ (BoxMessage.hear news).2 ≠ [] := by
    rw [← hnews]
    decide +kernel
  have hlength : groups.length = 1 := by
    have hboth := congrArg List.length hread
    rw [List.length_map, List.length_map] at hboth
    exact hboth.symm.trans hmessages.1
  have hwhole := hcut.whole
  rw [hlength] at hwhole
  exact ⟨hne, by decide +kernel, news, groups, hnews, hread, hlength, hwhole, hmessages.2⟩

end CalBench
