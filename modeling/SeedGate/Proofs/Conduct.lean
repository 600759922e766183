import SeedGate.Proofs.SeededFlag
import SeedGate.Proofs.WordRefinement

/-!
# Requests to the entropy of the operating system

Over the entropy of the operating system nothing goes wrong but draws. Polling makes the
probe just if the status is zero, and the status is one after it just if the probe has
succeeded (`Probing`). A request for some bytes within the limit makes one more draw, of
as many bytes, whatever has become of the probe, and this one alone decides what the
request reports (`Delivery`). All other requests draw nothing. `Course` puts the three
together, and `Conducted` says besides that nobody gives up but who demands words.

* `play_conducted`: along any session on a new source, whatever draws the kernel refuses
  and whatever the limit is, each request is so conducted; and the statuses are zeros up to
  some point and ones from there on (`Rising`).
-/

namespace SeedGate

open Event Bytes

/-! ## Statuses -/

/-- The status that a call tells, if it asks for one. -/
def Call.status? : Call → Option Int
  | .status answer => some answer
  | _ => none

/-- The statuses that were told, in their order. -/
def Event.statuses {ι : Type} (events : List (Event ι)) : List Int :=
  (calls events).filterMap Call.status?

/-- Zeros, and then ones. -/
def Rising (statuses : List Int) : Prop :=
  statuses.Pairwise (· ≤ ·) ∧ ∀ v ∈ statuses, v = 0 ∨ v = 1

namespace Rising

variable {v w : Int} {rest : List Int}

/-- The first status may be told again. -/
theorem again (h : Rising (v :: rest)) : Rising (v :: v :: rest) := by
  obtain ⟨hrising, hbits⟩ := h
  have hle : ∀ u ∈ v :: rest, v ≤ u :=
    List.forall_mem_cons.2 ⟨Int.le_refl v, fun _ => List.rel_of_pairwise_cons hrising⟩
  exact ⟨.cons hle hrising, List.forall_mem_cons.2 ⟨hbits v List.mem_cons_self, hbits⟩⟩

/-- The first status may have been less. -/
theorem of_le (h : Rising (w :: rest)) (hle : v ≤ w) (hv : v = 0 ∨ v = 1) : Rising (v :: rest) := by
  obtain ⟨hrising, hbits⟩ := h
  refine ⟨.cons (fun u hu => Int.le_trans hle ?_) hrising.of_cons, ?_⟩
  · exact List.rel_of_pairwise_cons hrising hu
  · exact List.forall_mem_cons.2 ⟨hv, (List.forall_mem_cons.1 hbits).2⟩

end Rising

theorem Event.statuses_append_of_calls {ι : Type} {events : List (Event ι)} {call : Call}
    (h : calls events = [call]) (later : List (Event ι)) :
    statuses (events ++ later) = call.status?.toList ++ statuses later := by
  rw [statuses, calls_append, h, List.filterMap_append]
  cases call <;> rfl

/-! ## What a request shows -/

/-- Nobody gives up for a report but who demands words. -/
theorem Request.exists_closing_eq_returned {request : Request}
    (h : ∀ buffer, ¬request.Demands buffer) (report : Except Fault Unit) (filled : Bytes) :
    ∃ answer, request.closing report filled = .returned answer := by
  cases request with
  | nextU32 => exact absurd (.nextU32 (length_zeros 4)) (h _)
  | nextU64 => exact absurd (.nextU64 (length_zeros 8)) (h _)
  | fillBytes own => exact absurd (.fillBytes own) (h _)
  | _ => exact ⟨_, rfl⟩

/-- Of its buffer a request shows what it hands out. -/
theorem BufferRun.closing_handedOut {σ ι : Type} {run : BufferRun (Except Fault Unit) σ ι}
    {report : Except Fault Unit} (h : run.ending = .returned report) (request : Request) :
    request.closing report run.handedOut = request.closing report run.buffer := by
  cases report with
  | ok => rw [BufferRun.handedOut, h]
  | error => cases request <;> rfl

namespace SystemEntropy

open Kernel

variable {stream : Nat → UInt8} {s t : State} {events : List (Event Happening)}

theorem status_eq_zero_or_one (s : State) : (status s).answer = 0 ∨ (status s).answer = 1 := by
  cases hs : s.seeded <;> simp [status, hs]

theorem status_le_status (h : s.seeded = true → t.seeded = true) :
    (status s).answer ≤ (status t).answer := by
  cases hs : s.seeded with
  | true => simp [status, hs, h hs]
  | false => cases ht : t.seeded <;> simp [status, hs, ht]

/-- Whatever calls are made, the statuses from the first state to the last are zeros, and then
    ones. -/
theorem rising_of_leads (h : (source stream).Leads s events t) :
    Rising ((status s).answer :: (statuses events ++ [(status t).answer])) := by
  induction h with
  | refl s =>
    have hlast : Rising [(status s).answer] :=
      ⟨List.pairwise_singleton _ _, List.forall_mem_singleton.2 (status_eq_zero_or_one s)⟩
    exact hlast.again
  | note _ _ ih => exact ih
  | @status s _ _ _ ih =>
    rw [statuses_append_of_calls (Source.calls_asking _ s)]
    exact ih.again
  | @gather s _ _ _ ih =>
    have hle : (status s).answer ≤ (status ((source stream).gather s).state).answer :=
      status_le_status fun hs => seeded_gather_iff.2 (.inl hs)
    rw [statuses_append_of_calls (Source.calls_gathering _ s)]
    exact ih.of_le hle (status_eq_zero_or_one s)
  | @fill s _ _ buffer _ ih =>
    have hle : (status s).answer ≤ (status ((source stream).fill buffer s).state).answer :=
      status_le_status (seeded_fill buffer s).trans
    rw [statuses_append_of_calls (Source.calls_filling _ buffer s)]
    exact ih.of_le hle (status_eq_zero_or_one s)

/-! ## The probe and the other draw -/

/-- The draws of polling, from the first state to the second: the probe, if the status is
    zero, and after it the status is one just if the probe has succeeded. -/
inductive Probing (s t : State) : List Draw → Prop
  | spared (hs : (status s).answer = 1) (ht : (status t).answer = 1) : Probing s t []
  | made {refusal? : Option Nat} {attempts : List Draw} (hs : (status s).answer = 0)
      (htakes : Takes 1 refusal? attempts) (ht : (status t).answer = 1 ↔ refusal? = none) :
      Probing s t attempts

theorem Probing.of_seeded {r : State} {attempts : List Draw} (h : Probing s t attempts)
    (hr : r.seeded = t.seeded) : Probing s r attempts := by
  have hstatus : (status r).answer = (status t).answer := by rw [status, status, hr]
  cases h with
  | spared hs ht => exact .spared hs (hstatus.trans ht)
  | made hs htakes ht => exact .made hs htakes (hstatus ▸ ht)

/-- Polling that ends has made the probe just if it found the status zero. -/
theorem probing_polling {rounds : Nat} {run : Run Unit State Happening}
    (h : Polling (source stream) rounds s run) (hfinished : run.ending ≠ .unfinished) :
    Probing s run.state (draws run.events) := by
  obtain ⟨-, -, hdraws⟩ := draws_polling h hfinished
  have hseeded := seeded_iff_of_leads h.leads
  cases hs : s.seeded with
  | true =>
    rw [hdraws, probed_of_seeded hs]
    exact .spared (status_eq_one_iff.2 hs) (status_eq_one_iff.2 (hseeded.2 (.inl hs)))
  | false =>
    -- Polling fills nothing, so that no draw can have succeeded but the probe.
    have hfilled : ¬Filled run.events := fun ⟨entry, _, hmem⟩ => h.seeking.not_mem_fill entry _ hmem
    have hdrew := drew_iff_of_leads h.leads
    have htakes := takes_draw stream Nat.one_ne_zero s.kernel
    rw [hdraws, probed_of_unseeded hs]
    refine .made ((@status_eq_zero_iff stream s).2 hs) htakes ?_
    rw [Drew, hdraws, probed_of_unseeded hs, htakes.exists_iff, or_iff_left hfilled] at hdrew
    rw [hs, or_iff_right Bool.false_ne_true, ← hdrew] at hseeded
    exact status_eq_one_iff.trans hseeded

/-- What is reported of a draw that was refused with this error number, or not refused. -/
def reportOf : Option Nat → Except Fault Unit
  | none => .ok ()
  | some errno => .error (.generation (ErrorNumber.name errno))

theorem answerOf_eq_reportOf (answer : Except Nat Bytes) :
    answerOf answer = reportOf (refusalOf? answer) := by cases answer <;> rfl

/-- The draws of a request for `n` bytes, with what it reports: the probe, if there is one to
    make, and then a draw of `n` bytes, and the report is of the latter. -/
inductive Delivery (s t : State) (n : Nat) : (report : Except Fault Unit) → List Draw → Prop
  | intro {refusal? : Option Nat} {probe own : List Draw} (hprobe : Probing s t probe)
      (hown : Takes n refusal? own) : Delivery s t n (reportOf refusal?) (probe ++ own)

theorem delivery_filling (hpoll : Polling (source stream) 0 s ⟨.returned (), t, events⟩) {n : Nat}
    (hn : n ≠ 0) :
    Delivery s ((source stream).fill (zeros n) t).state n ((source stream).fill (zeros n) t).answer
      (draws (events ++ (source stream).filling (zeros n) t)) := by
  have hprobe : Probing s t (draws events) := probing_polling hpoll nofun
  have hown := takes_draw stream hn t.kernel
  rw [draws_append, draws_filling, fill_eq, length_zeros]
  dsimp only
  rw [answerOf_eq_reportOf]
  exact .intro (hprobe.of_seeded rfl) hown

/-- An attempt that is finished has returned, and if it is for some bytes within the limit
    it has made its draws. -/
theorem delivery_attempt {limit : Nat} {buffer : Bytes}
    {run : BufferRun (Except Fault Unit) State Happening}
    (h : Attempt ⟨source stream, limit⟩ buffer s run) (hfinished : run.ending ≠ .unfinished) :
    ∃ report, run.ending = .returned report ∧
      (0 < buffer.length ∧ buffer.length ≤ limit →
        Delivery s run.state buffer.length report (draws run.events)) := by
  cases h with
  | oversized hlt => exact ⟨_, rfl, fun ⟨_, hle⟩ => absurd hlt (Nat.not_lt.2 hle)⟩
  | empty hempty => exact ⟨_, rfl, fun ⟨hpos, _⟩ => absurd hempty (List.length_pos_iff.1 hpos)⟩
  | cut => exact absurd rfl hfinished
  | malformed _ _ hpoll => cases (draws_polling hpoll nofun).1
  | failed _ _ hpoll hfill | filled _ _ hpoll hfill =>
    refine ⟨_, rfl, fun ⟨hpos, _⟩ => ?_⟩
    rw [← hfill]
    exact delivery_filling hpoll (Nat.ne_of_gt hpos)

/-! ## Requests -/

/-- Where nothing reaches the source, nothing is drawn. -/
theorem draws_eq_nil_of_leads (h : (source stream).Leads s events t) (hcalls : calls events = []) :
    draws events = [] := by
  induction h with
  | refl => rfl
  | note _ _ ih => exact ih hcalls
  | status | gather | fill => simp at hcalls

/-- What an entry point adds to the events of an attempt within the limit are no draws. -/
theorem draws_recount {limit n : Nat} {request : Request} (hlength : request.length? = some n)
    (hle : n ≤ limit) (ending : Ending (Except Fault Unit)) (events : List (Event Happening)) :
    draws (request.recount limit ending events) = draws events := by
  cases request with
  | randomVec m =>
    obtain rfl : m = n := (length_zeros m).symm.trans (Option.some.inj hlength)
    rw [Request.recount, if_neg (Nat.not_lt.2 hle)]
  | random buffer =>
    obtain (_ | _) | _ | _ := ending
    · exact (draws_append _ _).trans (List.append_nil _)
    all_goals rfl
  | _ => rfl

/-- The course of a request. -/
inductive Course (limit : Nat) (s : State) (request : Request) (step : Step State Happening) :
    Prop
  /-- It has no need of the source, or only asks for the status. -/
  | idle (h : ¬request.Polls limit) (hstate : step.state = s) (hdraws : draws step.events = [])
  /-- It is for polling alone. -/
  | polled (h : request = .poll) (hprobe : Probing s step.state (draws step.events))
  /-- It is for some bytes within the limit. -/
  | served {n : Nat} {report : Except Fault Unit} (hlength : request.length? = some n)
      (hpos : 0 < n) (hle : n ≤ limit) (h : Delivery s step.state n report (draws step.events))
      (hending : step.ending = request.closing report (step.handedOut request))
      (hnote : ∀ buffer fault, request = .random buffer → report = .error fault →
        .note (.requestFailed n fault) ∈ step.events)

/-- A request takes its course, and it does not give up unless it demands words. -/
structure Conducted (limit : Nat) (s : State) (request : Request) (step : Step State Happening) :
    Prop where
  returned : (∀ buffer, ¬request.Demands buffer) → ∃ answer, step.ending = .returned answer
  course : Course limit s request step
  /-- The statuses before it, in the course of it and after it. -/
  rising : Rising ((status s).answer :: (statuses step.events ++ [(status step.state).answer]))

theorem course_of_shows {limit : Nat} {request : Request} {step : Step State Happening}
    {run : BufferRun (Except Fault Unit) State Happening} {report : Except Fault Unit}
    (hshows : Shows limit request run step) (hlength : request.length? = some run.buffer.length)
    (hwithin : 0 < run.buffer.length ∧ run.buffer.length ≤ limit)
    (hreturned : run.ending = .returned report)
    (hdelivery : Delivery s run.state run.buffer.length report (draws run.events)) :
    Course limit s request step := by
  have hdraws : Delivery s step.state run.buffer.length report (draws step.events) := by
    rwa [hshows.state, hshows.events, draws_recount hlength hwithin.2]
  have hending : step.ending = request.closing report (step.handedOut request) := by
    rw [hshows.handedOut_eq hlength, BufferRun.closing_handedOut hreturned, hshows.ending,
      hreturned]
    rfl
  refine .served hlength hwithin.1 hwithin.2 hdraws hending ?_
  rintro buffer fault rfl rfl
  rw [hshows.events, hreturned, ← Option.some.inj hlength]
  exact List.mem_append_right _ (List.mem_singleton_self _)

section

variable (stream) {fuel : Nat} (hfuel : SystemEntropy.rounds ≤ fuel) (limit : Nat)
include hfuel

theorem conducted_serve_of_target? {request : Request} {buffer : Bytes}
    (htarget : request.target? = some buffer) (s : State) :
    Conducted limit s request (Generator.serve ⟨source stream, limit⟩ fuel request s) := by
  let g : Generator State Happening := ⟨source stream, limit⟩
  have hshows := shows_serve htarget g fuel s
  have hattempt := attempt_tryRandom g fuel buffer s
  have hfinished := finished_tryRandom (finished_poll stream hfuel limit s) buffer
  obtain ⟨report, hreturned, hdelivery⟩ := delivery_attempt hattempt hfinished
  rw [← hattempt.length_buffer] at hdelivery
  refine ⟨fun h => ?_, ?_, rising_of_leads (leads_serve g fuel request s)⟩
  · rw [hshows.ending, hreturned]
    exact request.exists_closing_eq_returned h report _
  cases hcounts : request.counts limit with
  | true =>
    have hlength : request.length? = some (g.tryRandom fuel buffer s).buffer.length := by
      rw [Request.length?, htarget, hattempt.length_buffer]
      rfl
    have hwithin := Request.within_of_counts hcounts htarget
    rw [← hattempt.length_buffer] at hwithin
    exact course_of_shows hshows hlength hwithin hreturned (hdelivery hwithin)
  | false =>
    obtain ⟨-, hstate, hcalls⟩ := @idle_serve _ _ g request hcounts fuel s
    refine .idle (fun h => ?_) hstate (draws_eq_nil_of_leads (leads_serve g fuel request s) hcalls)
    rw [h.2] at hcounts
    cases hcounts

/-- One step: whatever the request, it is conducted as it should be. -/
theorem conducted_serve (request : Request) (s : State) :
    Conducted limit s request (Generator.serve ⟨source stream, limit⟩ fuel request s) := by
  let g : Generator State Happening := ⟨source stream, limit⟩
  rcases request.target?_cases with ⟨buffer, htarget⟩ | rfl | rfl
  · exact conducted_serve_of_target? stream hfuel limit htarget s
  · have hpoll := polling_poll g fuel s
    have hfinished := finished_poll stream hfuel limit s
    refine ⟨fun _ => ⟨.done, ?_⟩, .polled rfl (probing_polling hpoll hfinished),
      rising_of_leads hpoll.leads⟩
    exact congrArg (Ending.map fun () => Answer.done) (draws_polling hpoll hfinished).1
  · refine ⟨fun _ => ?_, .idle (fun h => h.1 rfl) (state_isSeeded g s) ?_,
      rising_of_leads (leads_isSeeded g s)⟩
    · rw [Generator.serve, Generator.isSeeded, if_neg (Int.not_lt.2 status_nonneg)]
      exact ⟨_, rfl⟩
    · exact (congrArg draws (events_isSeeded g s)).trans (draws_asking s)

/-- Along any session on a new source every request is conducted as it should be, whatever
    the limit is and whatever draws the kernel refuses; and the statuses, from first to last,
    are zeros up to some point and ones from there on. -/
theorem play_conducted (outcomes : List Nat) (requests : List Request) :
    let steps := Session.play fuel (requests.map (⟨source stream, limit⟩, ·)) (.fresh outcomes)
    let t := Session.last (.fresh outcomes) steps
    Session.Along (Conducted limit) (.fresh outcomes) requests steps ∧
      Rising (0 :: (statuses (steps.flatMap (·.events)) ++ [(status t).answer])) := by
  have hfinished (request : Request) (s : State) :
      (Generator.serve ⟨source stream, limit⟩ fuel request s).ending ≠ .unfinished :=
    finished_serve (finished_poll stream hfuel limit s) request
  refine ⟨Session.along_play hfinished (conducted_serve stream hfuel limit) requests _, ?_⟩
  exact rising_of_leads (Session.leads_last ⟨source stream, limit⟩ requests (.fresh outcomes))

end

/-- The first probe is refused and the draw after it is not; the second is interrupted, then
    it succeeds, and the draw after it is refused. From then on there are no probes. -/
theorem play_conducted_crosswise :
    let stream : Nat → UInt8 := fun i => .ofNat i
    let requests : List Request :=
      [.tryRandom [7, 7], .random [8], .isSeeded, .poll, .randomVec 3, .randomArray 9]
    let steps := Session.play 2 (requests.map (⟨source stream, 4⟩, ·)) (.fresh [5, 0, 4, 0, 14])
    let t := Session.last (.fresh [5, 0, 4, 0, 14]) steps
    rounds ≤ 2 ∧
      steps.map (fun step => draws step.events) =
        [[⟨1, some 5⟩, ⟨2, none⟩], [⟨1, some 4⟩, ⟨1, none⟩, ⟨1, some 14⟩], [], [],
          [⟨3, none⟩], []] ∧
      Session.Along (Conducted 4) (.fresh [5, 0, 4, 0, 14]) requests steps ∧
      Rising (0 :: (statuses (steps.flatMap (·.events)) ++ [(status t).answer])) :=
  ⟨Nat.le_refl 2, rfl, play_conducted _ (Nat.le_refl 2) 4 _ _⟩

end SystemEntropy

end SeedGate
