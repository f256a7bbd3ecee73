/-
Single triggers of a controller board.

A board has no command that triggers a group. It turns to one device after the other, sends each the trigger command,
and returns to the device that it was turned to before. The first write that fails ends this at once, and then the board
does not return: it stays with the device that could not be triggered, and what is written next goes there.

Nothing is asked of the driver, so any of the writes may fail. `Board.Written` lists writes that have succeeded, one
after another.

- `triggerEach_cases`: the writes are those up to the first one that fails, and the board stays with the last of them.

Results:
- `trigger_stays_where_it_fails`: a trigger leaves the address alone if all of its writes succeed; otherwise its writes
  end with the first one that fails, and the address is the one that this was meant for.
Witness `reset_goes_astray`: what is sent after a failed trigger. Counterexample `board_does_not_return`: a board
without a driver.
-/
import CalBench.Proofs.Link.Heard

namespace CalBench

namespace Board

variable {δ : Type} [BoardDriver δ]

/-- a message is written to one device after the other, and every write succeeds -/
inductive Written (message : Bytes) : List UInt8 → δ → δ → Prop
  | none (driver : δ) : Written message [] driver driver
  | more {a : UInt8} {rest : List UInt8} {driver next last : δ}
      (hwrite : BoardDriver.write a message driver = (next, .ok ())) (hrest : Written message rest next last) :
      Written message (a :: rest) driver last

def triggerMessage (d : Board δ) : Bytes := Text.utf8 "*TRG" ++ d.terminator.bytes

/-! ## The writes of a trigger -/

/-- a text goes to the device that the board is turned to, and changes nothing but the driver -/
theorem writeString_apply (s : String) (d : Board δ) {driver : δ} {result : Except LinkError Unit}
    (h : BoardDriver.write d.address (Text.utf8 s ++ d.terminator.bytes) d.driver = (driver, result)) :
    (writeString s d).result = result ∧ (writeString s d).link = { d with driver } := by
  simp [writeString, writeBytes, drive, Attempt.bind_apply, h]

/-- a trigger turns to the first device, sends it the command, and goes on with the others -/
theorem triggerEach_cons (a : UInt8) (rest : List UInt8) (d : Board δ) :
    (triggerEach (a :: rest) d).result =
        ((writeString "*TRG" >>= fun _ => triggerEach rest) { d with address := a }).result ∧
      (triggerEach (a :: rest) d).link =
        ((writeString "*TRG" >>= fun _ => triggerEach rest) { d with address := a }).link := by
  have hturn : (Attempt.update (fun d : Board δ => { d with address := a }) d).result = .ok () := rfl
  exact Attempt.bind_succeeds hturn fun _ => writeString "*TRG" >>= fun _ => triggerEach rest

/-- **The writes are those up to the first one that fails**, and the board stays with the device of the last of them -/
theorem triggerEach_cases (addresses : List UInt8) (d : Board δ) :
    (∃ driver last, Written d.triggerMessage addresses d.driver driver ∧
      (triggerEach addresses d).result = .ok () ∧
      (triggerEach addresses d).link = { d with driver, address := last }) ∨
    ∃ before a after driver last e, addresses = before ++ a :: after ∧
      Written d.triggerMessage before d.driver driver ∧
      BoardDriver.write a d.triggerMessage driver = (last, .error e) ∧
      (triggerEach addresses d).result = .error e ∧
      (triggerEach addresses d).link = { d with driver := last, address := a } := by
  induction addresses generalizing d with
  | nil => exact .inl ⟨d.driver, d.address, .none _, rfl, rfl⟩
  | cons a rest ih =>
    obtain ⟨hresult, hlink⟩ := triggerEach_cons a rest d
    rcases hwrite : BoardDriver.write a d.triggerMessage d.driver with ⟨next, e | u⟩
    · -- the first write fails, and no other is made
      obtain ⟨hfailed, hturned⟩ := writeString_apply "*TRG" { d with address := a } hwrite
      obtain ⟨hstopped, hstays⟩ := Attempt.bind_fails hfailed fun _ => triggerEach rest
      refine .inr ⟨[], a, rest, d.driver, next, e, rfl, .none _, hwrite, hresult.trans hstopped, ?_⟩
      rw [hlink, hstays, hturned]
    · -- the first write succeeds, and the others are made from there
      obtain ⟨hdone, hturned⟩ := writeString_apply "*TRG" { d with address := a } hwrite
      obtain ⟨hthen, hthere⟩ := Attempt.bind_succeeds hdone fun _ => triggerEach rest
      rw [hturned] at hthen hthere
      rw [hresult, hlink, hthen, hthere]
      rcases ih { d with driver := next, address := a } with
        ⟨driver, last, hwritten, hok, hend⟩ | ⟨before, b, after, driver, last, e, hsplit, hwritten, hfailed, herr, hend⟩
      · exact .inl ⟨driver, last, .more hwrite hwritten, hok, hend⟩
      · refine .inr ⟨a :: before, b, after, driver, last, e, ?_, .more hwrite hwritten, hfailed, herr, hend⟩
        rw [hsplit, List.cons_append]

/-- **A trigger that fails does not return.**

If all writes of a trigger succeed, it leaves the address of the board as it was. Otherwise its writes are those to the
devices up to the first one that fails, it fails for the same reason, and it leaves the board with the address of that
device. Nothing else of the board changes. -/
theorem trigger_stays_where_it_fails (addresses : List UInt8) (d : Board δ) :
    (∃ driver, Written d.triggerMessage addresses d.driver driver ∧
      (call (.trigger addresses) d).result = .ok () ∧ (call (.trigger addresses) d).link = { d with driver }) ∨
    ∃ before a after driver last e, addresses = before ++ a :: after ∧
      Written d.triggerMessage before d.driver driver ∧
      BoardDriver.write a d.triggerMessage driver = (last, .error e) ∧
      (call (.trigger addresses) d).result = .error e ∧
      (call (.trigger addresses) d).link = { d with driver := last, address := a } := by
  have hcall : call (.trigger addresses) d =
      (triggerEach addresses >>= fun _ => Attempt.update fun l => { l with address := d.address }) d :=
    Attempt.get_bind _ d
  rw [hcall]
  rcases triggerEach_cases addresses d with
    ⟨driver, last, hwritten, hok, hend⟩ | ⟨before, a, after, driver, last, e, hsplit, hwritten, hfailed, herr, hend⟩
  · obtain ⟨hthen, hthere⟩ :=
      Attempt.bind_succeeds hok fun _ => Attempt.update fun l : Board δ => { l with address := d.address }
    refine .inl ⟨driver, hwritten, hthen, ?_⟩
    rw [hthere, hend]
    rfl
  · obtain ⟨hthen, hthere⟩ :=
      Attempt.bind_fails herr fun _ => Attempt.update fun l : Board δ => { l with address := d.address }
    exact .inr ⟨before, a, after, driver, last, e, hsplit, hwritten, hfailed, hthen, hthere.trans hend⟩

/-! ## A write that times out -/

/-- a driver that keeps account of its writes, of which one times out -/
structure SluggishDriver where
  /-- how many writes succeed before that one -/
  late : Nat
  written : List (UInt8 × Bytes) := []
deriving DecidableEq, Repr

instance : BoardDriver SluggishDriver where
  isOpen _ := true
  load d := (d, .ok ())
  unload d := d
  write a data d :=
    ({ d with written := d.written ++ [(a, data)] },
      if d.written.length = d.late then .error (.timeout .write (.ofSecs 2)) else .ok ())
  read _ _ d := (d, .ok [])
  clear _ d := (d, .ok ())
  poll _ d := (d, .ok 0)

/-- a board that is turned to the first device, and whose second write times out -/
def sluggishBoard : Board SluggishDriver := { name := "Bus", board := 0, driver := { late := 1 } }

/-- **What follows a failed trigger goes astray**: the fourth device is triggered and the ninth is not, and a reset for
the first one reaches the ninth -/
theorem reset_goes_astray :
    sluggishBoard.address = 1 ∧
      (call (.trigger [4, 9, 6]) sluggishBoard).result = .error (.timeout .write (.ofSecs 2)) ∧
      (∃ driver, Written sluggishBoard.triggerMessage [4] sluggishBoard.driver driver) ∧
      (call (.trigger [4, 9, 6]) sluggishBoard).link.address = 9 ∧
      (call (.writeString "*RST") (call (.trigger [4, 9, 6]) sluggishBoard).link).link.driver.written =
        [(4, Text.utf8 "*TRG\n"), (9, Text.utf8 "*TRG\n"), (9, Text.utf8 "*RST\n")] := by
  have hfails : (call (.trigger [4, 9, 6]) sluggishBoard).result = .error (.timeout .write (.ofSecs 2)) := rfl
  have hstays : (call (.trigger [4, 9, 6]) sluggishBoard).link.address = 9 := rfl
  rcases trigger_stays_where_it_fails [4, 9, 6] sluggishBoard with
    ⟨_, _, hok, _⟩ | ⟨before, a, after, driver, _, _, hsplit, hwritten, _, _, hend⟩
  · rw [hfails] at hok
    cases hok
  · have ha : a = 9 := by rw [← hstays, hend]
    have hbefore : before = [4] := by
      subst ha
      rcases before with _ | ⟨b, _ | ⟨c, _ | ⟨_, rest⟩⟩⟩ <;> simp_all
    rw [hbefore] at hwritten
    exact ⟨rfl, hfails, ⟨driver, hwritten⟩, hstays, by decide +kernel⟩

/-- a board without a driver, turned to the third device -/
def idleBoard : Board NoDriver := (call (.setAddress 3) { name := "ni", board := 0, driver := .absent }).link

/-- **A board does not return from a failed trigger**: it was turned to the third device and stays with the fifth -/
theorem board_does_not_return :
    idleBoard.address = 3 ∧ (call (.trigger [5]) idleBoard).result = .error NoDriver.missing ∧
      (call (.trigger [5]) idleBoard).link.address = 5 :=
  ⟨rfl, rfl, rfl⟩

end Board

end CalBench
