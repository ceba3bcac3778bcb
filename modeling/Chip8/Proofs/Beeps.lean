import Chip8.Beeper
import Mathlib.Data.List.Basic
import Mathlib.Data.List.Induction

/-! Beeps in a row. The mixer is tried once: from then on the beeper holds its channel, or it has
given audio up and is silent. What is done once is counted along the calls, together with what the
beeper remembers of it. -/
namespace Chip8

namespace Request

def isStart : Request → Bool
  | .startMixer _ => true
  | _ => false

def isChannel : Request → Bool
  | .channel _ => true
  | _ => false

def sound? : Request → Option Nat
  | .sound samples => some samples
  | _ => none

def isPlaying : Request → Bool
  | .volume | .play _ => true
  | _ => false

end Request

namespace Desktop

def hasMixer (d : Desktop) : Bool := d.available && d.mixerReady

/-- Whether there is a mixer that runs or would start. -/
def offersMixer (d : Desktop) : Bool := d.available && (d.mixerReady || d.mixerWorks)

/-- The desktop `d` after so many more requests. -/
def Asked (d : Desktop) (more : List Request) (e : Desktop) : Prop :=
  e.requests.toList = d.requests.toList ++ more

variable {d e f : Desktop} {more later : List Request}

theorem Asked.trans (one : d.Asked more e) (other : e.Asked later f) :
    d.Asked (more ++ later) f := by
  rw [Asked] at one other ⊢
  rw [other, one, List.append_assoc]

end Desktop

namespace Beeper

/-- A call of a beeper. Whether the mixer would start at this time and how many samples memory has
room for may be different each time. -/
inductive Call
  | beep (time : Option Number) (works : Bool) (room : Nat)
  | close

def Call.time? : Call → Option (Option Number)
  | .beep time _ _ => some time
  | .close => none

def voice (round : Number.Rounding) (b : Beeper) (d : Desktop) :
    Except Tone.Fault Unit × Beeper × Desktop :=
  if b.ready && b.audio then
    match b.build round d with
    | .error fault => (.error fault, b, d)
    | .ok (count, b, d) => (.ok (), b, d.requestAll [.volume, .play count])
  else
    (.ok (), b, d)

def answer (round : Number.Rounding) (b : Beeper) (d : Desktop) :
    Call → Except Tone.Fault Unit × Beeper × Desktop
  | .beep time works room => b.beep round time { d with mixerWorks := works, room }
  | .close => (.ok (), b, b.close d)

def answerAll (round : Number.Rounding) (calls : List Call) (now : Beeper × Desktop) :
    Beeper × Desktop :=
  calls.foldl (fun now c => (answer round now.1 now.2 c).2) now

section Prepare

variable {b : Beeper} {d : Desktop}

def tuning (b : Beeper) (d : Desktop) : List Request :=
  if b.audio && !b.ready && d.available then
    (if d.mixerReady then [] else [.startMixer b.tone.rate]) ++
      if d.offersMixer then [.channel 0] else []
  else []

theorem prepare_of_settled (settled : (b.audio && !b.ready) = false) : b.prepare d = (b, d) := by
  have done : (!b.audio || b.ready) = true := by
    cases audio : b.audio <;> simp_all
  simp [prepare, done]

theorem prepare_of_open (on : b.audio = true) (unready : b.ready = false) :
    (b.prepare d).1 =
        (if d.offersMixer then { b with ready := true } else { b with audio := false }) ∧
      d.Asked (tuning b d) (b.prepare d).2 ∧ (b.prepare d).2.hasMixer = d.offersMixer := by
  cases available : d.available <;> cases ready : d.mixerReady <;> cases works : d.mixerWorks <;>
    simp [prepare, tuning, Desktop.Asked, Desktop.offersMixer, Desktop.hasMixer, Desktop.request,
      on, unready, available, ready, works]

theorem ready_of_prepare (on : (b.prepare d).1.audio = true) : (b.prepare d).1.ready = true := by
  cases tried : b.audio && !b.ready with
  | false => simp_all [prepare_of_settled tried]
  | true =>
    obtain ⟨audio, unready⟩ : b.audio = true ∧ b.ready = false := by simpa using tried
    rw [(prepare_of_open audio unready).1] at on ⊢
    split_ifs at on ⊢ with offers
    rfl

@[simp] theorem tone_prepare : (b.prepare d).1.tone = b.tone := by
  simp only [prepare]
  split_ifs <;> rfl

@[simp] theorem room_prepare : (b.prepare d).2.room = d.room := by
  simp only [prepare]
  split_ifs <;> rfl

@[simp] theorem history_prepare : (b.prepare d).1.history = b.history := by
  simp only [prepare]
  split_ifs <;> rfl

theorem tuning_of_settled (settled : (b.audio && !b.ready) = false) : tuning b d = [] := by
  simp [tuning, settled]

theorem tuning_of_open (on : b.audio = true) (unready : b.ready = false) :
    (tuning b d).countP Request.isStart ≤ (if d.mixerReady then 0 else 1) ∧
      (tuning b d).countP Request.isChannel = (if d.offersMixer then 1 else 0) := by
  cases available : d.available <;> cases ready : d.mixerReady <;> cases works : d.mixerWorks <;>
    simp [tuning, Desktop.offersMixer, Request.isStart, Request.isChannel, List.countP_cons, on,
      unready, available, ready, works]

theorem unplayed_tuning (b : Beeper) (d : Desktop) :
    ∀ r ∈ tuning b d, r.isPlaying = false ∧ r.sound? = none := by
  unfold tuning
  split_ifs <;> simp [Request.isPlaying, Request.sound?]

end Prepare

section Voice

variable {round : Number.Rounding} {b : Beeper} {d : Desktop} {more : List Request}
  {outcome : Except Tone.Fault Unit × Beeper × Desktop}

theorem beep_eq (time : Option Number) (b : Beeper) (d : Desktop) :
    b.beep round time d =
      let prepared := { b with history := b.history.push time }.prepare d
      voice round prepared.1 prepared.2 := rfl

/-- What comes of a voice, and what is requested for it. -/
inductive Voiced (round : Number.Rounding) (b : Beeper) (d : Desktop) :
    Except Tone.Fault Unit × Beeper × Desktop → List Request → Prop
  | mute (off : (b.ready && b.audio) = false) : Voiced round b d (.ok (), b, d) []
  | again (on : (b.ready && b.audio) = true) (count : Nat) (built : b.sound = some count) :
    Voiced round b d (.ok (), b, d.requestAll [.volume, .play count]) [.volume, .play count]
  | failed (on : (b.ready && b.audio) = true) (unbuilt : b.sound = none) (fault : Tone.Fault)
      (fails : b.tone.samples round d.room = .error fault) :
    Voiced round b d (.error fault, b, d) []
  | first (on : (b.ready && b.audio) = true) (unbuilt : b.sound = none) (samples : List Int)
      (computed : b.tone.samples round d.room = .ok samples) :
    Voiced round b d
      (.ok (), { b with sound := some samples.length },
        (d.request (.sound samples.length)).requestAll [.volume, .play samples.length])
      [.sound samples.length, .volume, .play samples.length]

theorem exists_voiced (round : Number.Rounding) (b : Beeper) (d : Desktop) :
    ∃ more, Voiced round b d (voice round b d) more := by
  cases on : b.ready && b.audio with
  | false => exact ⟨_, by simpa [voice, on] using Voiced.mute on⟩
  | true =>
    cases built : b.sound with
    | some count => exact ⟨_, by simpa [voice, build, on, built] using Voiced.again on count built⟩
    | none =>
      cases computed : b.tone.samples round d.room with
      | error fault =>
        exact ⟨_, by
          simpa [voice, build, on, built, computed] using Voiced.failed on built fault computed⟩
      | ok samples =>
        exact ⟨_, by
          simpa [voice, build, on, built, computed] using Voiced.first on built samples computed⟩

theorem Voiced.asked (voiced : Voiced round b d outcome more) : d.Asked more outcome.2.2 := by
  cases voiced <;> simp [Desktop.Asked, Desktop.request, Desktop.requestAll]

theorem Voiced.hasMixer (voiced : Voiced round b d outcome more) :
    outcome.2.2.hasMixer = d.hasMixer := by
  cases voiced <;> rfl

theorem Voiced.audio (voiced : Voiced round b d outcome more) :
    outcome.2.1.audio = b.audio ∧ outcome.2.1.ready = b.ready := by
  cases voiced <;> exact ⟨rfl, rfl⟩

theorem Voiced.history (voiced : Voiced round b d outcome more) :
    outcome.2.1.history = b.history := by
  cases voiced <;> rfl

theorem Voiced.of_ok (voiced : Voiced round b d outcome more) (done : outcome.1 = .ok ()) :
    (b.ready && b.audio) = false ∧ more = [] ∨
      (b.ready && b.audio) = true ∧ ∃ setup count, more = setup ++ [.volume, .play count] ∧
        ∀ r ∈ setup, r.isPlaying = false := by
  cases voiced with
  | mute off => exact .inl ⟨off, rfl⟩
  | again on count => exact .inr ⟨on, [], count, rfl, by simp⟩
  | failed => cases done
  | first on _ samples =>
    exact .inr ⟨on, [.sound samples.length], _, rfl, by simp [Request.isPlaying]⟩

theorem Voiced.of_error {fault : Tone.Fault} (voiced : Voiced round b d outcome more)
    (fails : outcome.1 = .error fault) :
    (b.ready && b.audio) = true ∧ b.sound = none ∧ b.tone.samples round d.room = .error fault ∧
      outcome.2 = (b, d) ∧ more = [] := by
  cases voiced with
  | failed on unbuilt other computed =>
    cases fails
    exact ⟨on, unbuilt, computed, rfl, rfl⟩
  | mute | again | first => cases fails

theorem beep_of_samples (on : b.audio = true) (ready : b.ready = true) (unbuilt : b.sound = none)
    {samples : List Int} (computed : b.tone.samples round d.room = .ok samples)
    (time : Option Number) :
    ∃ b' d', b.beep round time d = (.ok (), b', d') ∧
      d.Asked [.sound samples.length, .volume, .play samples.length] d' := by
  have settled : (b.audio && !b.ready) = false := by simp [ready]
  simp only [beep_eq, prepare_of_settled, settled]
  simp [voice, build, on, ready, unbuilt, computed, Desktop.Asked, Desktop.request,
    Desktop.requestAll]

end Voice

/-- What a beeper and its desktop have come to from a desktop `origin`, after the requests `past`.
`audio` tells whether there was to be audio at first. -/
structure Kept (origin : Desktop) (audio : Bool) (past : List Request) (b : Beeper) (d : Desktop) :
    Prop where
  asked : origin.Asked past d
  untried : b.audio = true → b.ready = false → past = [] ∧ d.mixerReady = origin.mixerReady
  ready : b.ready = true → b.audio = true ∧ d.hasMixer = true
  enabled : b.audio = true → audio = true
  lost : audio = true → b.audio = false → d.hasMixer = false
  starts : past.countP Request.isStart ≤ if origin.mixerReady then 0 else 1
  channels : past.countP Request.isChannel = if b.ready then 1 else 0
  sounds : past.filterMap Request.sound? = b.sound.toList
  plays : ∀ count, .play count ∈ past → b.sound = some count

/-- What one more beep comes to. `audio` tells whether there was to be audio at first. -/
structure Beeped (round : Number.Rounding) (audio : Bool) (b : Beeper) (d : Desktop)
    (outcome : Except Tone.Fault Unit × Beeper × Desktop) (more : List Request) : Prop where
  asked : d.Asked more outcome.2.2
  on : outcome.2.1.audio = true ↔ audio = true ∧ outcome.2.2.hasMixer = true
  tried : b.audio = true → b.ready = false → outcome.2.2.hasMixer = d.offersMixer
  done : outcome.1 = .ok () →
    if audio && outcome.2.2.hasMixer then
      ∃ setup count, more = setup ++ [.volume, .play count] ∧ ∀ r ∈ setup, r.isPlaying = false
    else
      ∀ r ∈ more, r.isPlaying = false
  failed : ∀ fault, outcome.1 = .error fault → b.tone.samples round d.room = .error fault ∧
    (∀ r ∈ more, r.isPlaying = false ∧ r.sound? = none) ∧
    outcome.2.1.audio = true ∧ outcome.2.1.ready = true ∧ outcome.2.1.sound = none
  again : ∀ fault, outcome.1 = .error fault →
    ∀ tone room samples, tone.samples round room = .ok samples → ∀ time works, ∃ b' d',
      ({ outcome.2.1 with tone := tone }).answer round outcome.2.2 (.beep time works room) =
        (.ok (), b', d') ∧
      outcome.2.2.Asked [.sound samples.length, .volume, .play samples.length] d'

section Kept

variable {origin d : Desktop} {audio : Bool} {past : List Request}
  {b : Beeper} (kept : Kept origin audio past b d)
include kept

theorem Kept.prepare :
    Kept origin audio (past ++ tuning b d) (b.prepare d).1 (b.prepare d).2 := by
  cases tried : b.audio && !b.ready with
  | false => simpa [prepare_of_settled tried, tuning_of_settled tried] using kept
  | true =>
    obtain ⟨on, unready⟩ : b.audio = true ∧ b.ready = false := by simpa using tried
    obtain ⟨rfl, same⟩ := kept.untried on unready
    obtain ⟨after, asked, mixer⟩ := prepare_of_open (d := d) on unready
    obtain ⟨starts, channels⟩ := tuning_of_open (d := d) on unready
    have unbuilt : b.sound = none := by simpa using kept.sounds
    have silent : (tuning b d).filterMap Request.sound? = [] :=
      List.filterMap_eq_nil_iff.2 fun r member => (unplayed_tuning b d r member).2
    have unplayed : ∀ count, Request.play count ∉ tuning b d := fun count member => by
      simpa [Request.isPlaying] using (unplayed_tuning b d _ member).1
    refine ⟨kept.asked.trans asked, ?_, ?_, ?_, ?_, ?_, ?_, ?_, ?_⟩ <;>
      cases offers : d.offersMixer <;>
      simp [after, offers, mixer, on, unready, unbuilt, silent, unplayed, kept.enabled on, ← same,
        starts, channels]

theorem Kept.ask {more : List Request} (sound : Option Nat) {e : Desktop}
    (asked : d.Asked more e) (mixer : e.hasMixer = d.hasMixer) (ready : b.ready = true)
    (quiet : ∀ r ∈ more, r.isStart = false ∧ r.isChannel = false)
    (sounds : b.sound.toList ++ more.filterMap Request.sound? = sound.toList)
    (plays : ∀ count, .play count ∈ more → sound = some count) :
    Kept origin audio (past ++ more) { b with sound := sound } e := by
  have on := (kept.ready ready).1
  have unstarted : more.countP Request.isStart = 0 :=
    List.countP_eq_zero.2 fun r member => by simp [(quiet r member).1]
  have untaken : more.countP Request.isChannel = 0 :=
    List.countP_eq_zero.2 fun r member => by simp [(quiet r member).2]
  refine ⟨kept.asked.trans asked, ?_, fun _ => mixer ▸ kept.ready ready, kept.enabled, ?_, ?_, ?_,
    ?_, ?_⟩
  · simp [ready]
  · simp [on]
  · simpa [unstarted] using kept.starts
  · simpa [untaken] using kept.channels
  · simpa [kept.sounds] using sounds
  · intro count played
    cases List.mem_append.1 played with
    | inl before =>
      have built := kept.plays count before
      rw [built] at sounds
      cases sound with
      | none => simp at sounds
      | some other => simp_all
    | inr now => exact plays count now

theorem Kept.voiced {round : Number.Rounding} {more : List Request}
    {outcome : Except Tone.Fault Unit × Beeper × Desktop} (voiced : Voiced round b d outcome more) :
    Kept origin audio (past ++ more) outcome.2.1 outcome.2.2 := by
  have ready (on : (b.ready && b.audio) = true) : b.ready = true := by
    rw [Bool.and_eq_true] at on
    exact on.1
  have asked := voiced.asked
  cases voiced with
  | mute | failed => simpa using kept
  | again on count built =>
    refine kept.ask b.sound asked rfl (ready on) ?_ ?_ ?_ <;>
      simp [Request.isStart, Request.isChannel, Request.sound?, built]
  | first on unbuilt samples computed =>
    refine kept.ask (some samples.length) asked rfl (ready on) ?_ ?_ ?_ <;>
      simp [Request.isStart, Request.isChannel, Request.sound?, unbuilt]

theorem Kept.close :
    Kept origin audio (past ++ if b.ready then [.silence] else []) b (b.close d) := by
  cases ready : b.ready with
  | false => simpa [Beeper.close, ready] using kept
  | true =>
    refine kept.ask b.sound ?_ ?_ ready ?_ ?_ ?_ <;>
      simp [Beeper.close, Desktop.Asked, Desktop.request, Desktop.hasMixer, ready, Request.isStart,
        Request.isChannel, Request.sound?]

theorem Kept.audio_iff (tried : b.audio = true → b.ready = true) :
    b.audio = true ↔ audio = true ∧ d.hasMixer = true := by
  constructor
  · intro on
    exact ⟨kept.enabled on, (kept.ready (tried on)).2⟩
  · rintro ⟨wanted, mixer⟩
    by_contra off
    simp [kept.lost wanted (by simpa using off)] at mixer

theorem Kept.heard (time : Option Number) (works : Bool) (room : Nat) :
    Kept origin audio past { b with history := b.history.push time }
      { d with mixerWorks := works, room } :=
  ⟨kept.asked, kept.untried, kept.ready, kept.enabled, kept.lost, kept.starts, kept.channels,
    kept.sounds, kept.plays⟩

theorem Kept.speak (round : Number.Rounding) :
    ∃ more, Kept origin audio (past ++ more) (voice round (b.prepare d).1 (b.prepare d).2).2.1
        (voice round (b.prepare d).1 (b.prepare d).2).2.2 ∧
      Beeped round audio b d (voice round (b.prepare d).1 (b.prepare d).2) more := by
  obtain ⟨voicing, voiced⟩ := exists_voiced round (b.prepare d).1 (b.prepare d).2
  have spoken := kept.prepare.voiced voiced
  have tried : (b.prepare d).1.audio = true → (b.prepare d).1.ready = true := ready_of_prepare
  have unplayed := unplayed_tuning b d
  obtain ⟨still, ready⟩ := voiced.audio
  have mixer := voiced.hasMixer
  generalize voice round (b.prepare d).1 (b.prepare d).2 = outcome at *
  have on := spoken.audio_iff (by rwa [still, ready])
  have heard : (audio && outcome.2.2.hasMixer) = outcome.2.1.audio := by
    rw [Bool.eq_iff_iff, Bool.and_eq_true, on]
  rw [List.append_assoc] at spoken
  have failed (fault : Tone.Fault) (fails : outcome.1 = .error fault) :
      b.tone.samples round d.room = .error fault ∧
        (∀ r ∈ tuning b d ++ voicing, r.isPlaying = false ∧ r.sound? = none) ∧
        outcome.2.1.audio = true ∧ outcome.2.1.ready = true ∧ outcome.2.1.sound = none := by
    obtain ⟨on, unbuilt, computed, unchanged, rfl⟩ := voiced.of_error fails
    rw [Bool.and_eq_true] at on
    refine ⟨?_, by simpa using unplayed, still.trans on.2, ready.trans on.1, ?_⟩
    · rwa [tone_prepare, room_prepare] at computed
    · rw [unchanged, unbuilt]
  refine ⟨_, spoken, ?_, on, fun on unready => ?_, fun done => ?_, failed, ?_⟩
  · rw [Desktop.Asked, spoken.asked, kept.asked, List.append_assoc]
  · rw [mixer, (prepare_of_open on unready).2.2]
  · obtain ⟨off, rfl⟩ | ⟨on, setup, count, rfl, before⟩ := voiced.of_ok done
    · have unheard : outcome.2.1.audio = false := by
        rw [still]
        by_contra on
        simp [tried (by simpa using on), on] at off
      simpa [heard, unheard] using fun r member => (unplayed r member).1
    · rw [Bool.and_eq_true] at on
      rw [if_pos (by rw [heard, still, on.2])]
      refine ⟨tuning b d ++ setup, count, (List.append_assoc ..).symm, fun r member => ?_⟩
      exact (List.mem_append.1 member).elim (fun early => (unplayed r early).1) (before r)
  · intro fault fails tone room samples computed time works
    obtain ⟨_, _, on, ready, unbuilt⟩ := failed fault fails
    exact beep_of_samples (b := { outcome.2.1 with tone := tone })
      (d := { outcome.2.2 with mixerWorks := works, room }) on ready unbuilt computed time

theorem Kept.beep (round : Number.Rounding) (time : Option Number) (works : Bool) (room : Nat) :
    ∃ more, Kept origin audio (past ++ more) (b.answer round d (.beep time works room)).2.1
        (b.answer round d (.beep time works room)).2.2 ∧
      Beeped round audio b { d with mixerWorks := works, room }
        (b.answer round d (.beep time works room)) more := by
  obtain ⟨more, spoken, beeped⟩ := (kept.heard time works room).speak round
  exact ⟨more, spoken, beeped.asked, beeped.on, beeped.tried, beeped.done, beeped.failed,
    beeped.again⟩

theorem Kept.answer (round : Number.Rounding) (c : Call) :
    ∃ more, Kept origin audio (past ++ more) (b.answer round d c).2.1 (b.answer round d c).2.2 := by
  cases c with
  | beep time works room =>
    obtain ⟨more, spoken, _⟩ := kept.beep round time works room
    exact ⟨more, spoken⟩
  | close => exact ⟨_, kept.close⟩

theorem Kept.answerAll (round : Number.Rounding) (calls : List Call) :
    ∃ more, Kept origin audio (past ++ more) (answerAll round calls (b, d)).1
      (answerAll round calls (b, d)).2 := by
  induction calls generalizing past b d with
  | nil => exact ⟨[], by simpa [Beeper.answerAll] using kept⟩
  | cons c rest ih =>
    obtain ⟨first, answered⟩ := kept.answer round c
    obtain ⟨later, done⟩ := ih answered
    exact ⟨first ++ later, by simpa [Beeper.answerAll] using done⟩

end Kept

theorem kept_of_untried {b : Beeper} (unready : b.ready = false) (unbuilt : b.sound = none)
    (d : Desktop) : Kept d b.audio [] b d where
  asked := by simp [Desktop.Asked]
  untried _ _ := ⟨rfl, rfl⟩
  ready ready := by simp [unready] at ready
  enabled := id
  lost on off := by simp [on] at off
  starts := by simp
  channels := by simp [unready]
  sounds := by simp [unbuilt]
  plays := by simp

section Run

variable (round : Number.Rounding) {b : Beeper} {d : Desktop}

theorem history_answer (c : Call) :
    (b.answer round d c).2.1.history.toList = b.history.toList ++ c.time?.toList := by
  cases c with
  | beep time works room =>
    obtain ⟨_, voiced⟩ := exists_voiced round
      ({ b with history := b.history.push time }.prepare { d with mixerWorks := works, room }).1
      ({ b with history := b.history.push time }.prepare { d with mixerWorks := works, room }).2
    simp [answer, beep_eq, voiced.history, Call.time?]
  | close => simp [answer, Call.time?]

theorem history_answerAll (calls : List Call) :
    (answerAll round calls (b, d)).1.history.toList =
      b.history.toList ++ calls.filterMap Call.time? := by
  induction calls using List.reverseRecOn with
  | nil => simp [answerAll]
  | append_singleton before c ih =>
    simp only [answerAll, List.foldl_append, List.foldl_cons, List.foldl_nil] at ih ⊢
    rw [history_answer, ih]
    cases time : c.time? <;> simp [time]

theorem answerAll_of_mute (calls : List Call) (off : b.audio = false) (unready : b.ready = false) :
    (answerAll round calls (b, d)).1.audio = false ∧
      d.Asked [] (answerAll round calls (b, d)).2 := by
  induction calls generalizing b d with
  | nil => simpa [answerAll, Desktop.Asked] using off
  | cons c rest ih =>
    cases c with
    | beep time works room =>
      simpa [answerAll, answer, beep, prepare, off, unready, Desktop.Asked] using
        ih (b := { b with history := b.history.push time })
          (d := { d with mixerWorks := works, room }) off unready
    | close => simpa [answerAll, answer, close, unready] using ih off unready

end Run

/-- A beeper remembers every time that it is given, and does once what has to be done once: it
starts the mixer unless it runs, takes a channel and builds the one sound that it plays from then
on. Once it has no audio, nothing is requested again. If the samples cannot be computed, a later
beep may try it again. -/
theorem mixer_and_sound_made_once (round : Number.Rounding) (tone : Tone) (audio : Bool)
    (history : Array (Option Number)) (origin : Desktop) (calls : List Call) :
    ∃ b d past, answerAll round calls (⟨tone, audio, false, none, history⟩, origin) = (b, d) ∧
      origin.Asked past d ∧
      b.history.toList = history.toList ++ calls.filterMap Call.time? ∧
      past.countP Request.isStart ≤ (if origin.mixerReady then 0 else 1) ∧
      past.countP Request.isChannel ≤ 1 ∧
      (past.filterMap Request.sound?).length ≤ 1 ∧
      (∀ count, .play count ∈ past → past.filterMap Request.sound? = [count]) ∧
      (∀ time works room, ∃ more, Beeped round audio b { d with mixerWorks := works, room }
        (b.answer round d (.beep time works room)) more) ∧
      (b.audio = false → ∀ later, (answerAll round later (b, d)).1.audio = false ∧
        d.Asked [] (answerAll round later (b, d)).2) ∧
      d.Asked (if past.any Request.isChannel then [.silence] else []) (b.close d) := by
  obtain ⟨past, kept⟩ := (kept_of_untried (b := ⟨tone, audio, false, none, history⟩) rfl rfl
    origin).answerAll round calls
  rw [List.nil_append] at kept
  have times :=
    history_answerAll round (b := ⟨tone, audio, false, none, history⟩) (d := origin) calls
  generalize answerAll round calls (⟨tone, audio, false, none, history⟩, origin) = now at *
  refine ⟨now.1, now.2, past, rfl, kept.asked, times, kept.starts, ?_, ?_, ?_, ?_, ?_, ?_⟩
  · rw [kept.channels]
    split_ifs <;> simp
  · rw [kept.sounds]
    cases now.1.sound <;> simp
  · intro count played
    rw [kept.sounds, kept.plays count played, Option.toList_some]
  · intro time works room
    obtain ⟨more, _, beeped⟩ := kept.beep round time works room
    exact ⟨more, beeped⟩
  · intro off later
    have unready : now.1.ready = false := by
      by_contra ready
      simp [(kept.ready (by simpa using ready)).1] at off
    exact answerAll_of_mute round later off unready
  · have taken : past.any Request.isChannel = now.1.ready := by
      rw [Bool.eq_iff_iff, List.any_eq_true, ← List.countP_pos_iff, kept.channels]
      split_ifs with ready <;> simp [ready]
    rw [taken]
    cases ready : now.1.ready <;> simp [close, ready, Desktop.Asked, Desktop.request]

/-- A mixer that has refused once is not asked again. -/
example :
    let calls := [.close, .beep none false 0, .beep (some (.whole 1)) true 0, .close]
    let origin := ⟨fun _ => none, 0, true, true, false, [], [], #[]⟩
    let now := answerAll Number.exact calls (fresh .standard true, origin)
    now.1.history = #[none, some (.whole 1)] ∧ now.2.requests = #[.startMixer (.whole 44100)] := by
  decide

end Beeper

end Chip8
