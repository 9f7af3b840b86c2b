import XrtcServer.Base.Model.EventLoop
import XrtcServer.Common.Run
/-!
# What a watcher watches

`start_io_event` asks whether the watcher is active before it reads the
events in it, `stop_io_event` does not. In a watcher that is not active these
events are what it was stopped with, or nothing that anybody set, and a stop
that takes some of them and leaves others starts the watcher with the rest.
Otherwise the watcher watches what the calls add up to.
-/

namespace XrtcServer

namespace Base

open Common

/-- A call on a watcher. -/
inductive IoCall where
  | start (mask : IOMask)
  | stop (mask : IOMask)
deriving DecidableEq, Repr

/-- What a call does to the events that are wanted. -/
def IoCall.apply (wanted : IOMask) : IoCall → IOMask
  | .start mask => wanted.union mask
  | .stop mask => wanted.diff mask

namespace IOWatcher

/-- A call, with this descriptor. -/
def call (fd : ℤ) (w : IOWatcher) : IoCall → IOWatcher
  | .start mask => w.startIoEvent fd mask
  | .stop mask => w.stopIoEvent fd mask

/-- The events the loop watches. -/
def watched (w : IOWatcher) : IOMask := if w.active then w.events else .NONE

/-- A stop is of a watcher that is active, or takes all of the events left in
it or none. -/
def Meets (w : IOWatcher) : IoCall → Prop
  | .start _ => True
  | .stop mask => w.active = true ∨ w.events.diff mask = w.events ∨ w.events.diff mask = .NONE

end IOWatcher

/-- A watcher, and what the calls on it add up to. -/
structure Watch where
  watcher : IOWatcher
  wanted : IOMask := .NONE
deriving DecidableEq, Repr

namespace Watch

/-- One more call. -/
def step (fd : ℤ) (s : Watch) (c : IoCall) : Option Watch :=
  some ⟨s.watcher.call fd c, c.apply s.wanted⟩

/-- The loop watches what the calls add up to. -/
def Agrees (s : Watch) : Prop := s.watcher.watched = s.wanted

instance (s : Watch) : Decidable s.Agrees := inferInstanceAs (Decidable (_ = _))

end Watch

variable {w : IOWatcher} {fd : ℤ} {mask a b : IOMask}

theorem IOMask.union_comm (a b : IOMask) : a.union b = b.union a := by
  unfold IOMask.union
  rw [Bool.or_comm, Bool.or_comm a.write]

theorem IOMask.none_diff (a : IOMask) : IOMask.NONE.diff a = .NONE := rfl

theorem watched_of_active (h : w.active = true) : w.watched = w.events := if_pos h

theorem watched_of_inactive (h : ¬ w.active = true) : w.watched = .NONE := if_neg h

/-- Starting adds the mask, whatever was left in a watcher that is not
active. -/
theorem watched_start (w : IOWatcher) (fd : ℤ) (mask : IOMask) :
    (w.startIoEvent fd mask).watched = w.watched.union mask := by
  unfold IOWatcher.startIoEvent
  split
  · rename_i hactive
    rw [watched_of_active hactive, IOMask.union_comm w.events]
    dsimp only
    split
    · rename_i hsame
      rw [watched_of_active hactive, hsame]
    · rfl
  · rename_i hinactive
    rw [watched_of_inactive hinactive]
    rfl

/-- Stopping removes the mask from what is watched exactly where the call
meets the condition. -/
theorem watched_stop (w : IOWatcher) (fd : ℤ) (mask : IOMask) :
    (w.stopIoEvent fd mask).watched = w.watched.diff mask ↔ w.Meets (.stop mask) := by
  unfold IOWatcher.stopIoEvent IOWatcher.Meets
  by_cases hactive : w.active = true
  · rw [watched_of_active hactive]
    refine iff_of_true ?_ (.inl hactive)
    dsimp only
    split
    · rename_i hsame
      rw [watched_of_active hactive, hsame]
    · split
      · rename_i hnone
        rw [hnone]
        rfl
      · rfl
  · rw [watched_of_inactive hactive, IOMask.none_diff]
    dsimp only
    split
    · rename_i hsame
      exact iff_of_true (watched_of_inactive hactive) (.inr (.inl hsame))
    · rename_i hother
      split
      · rename_i hnone
        exact iff_of_true rfl (.inr (.inr hnone))
      · rename_i hsome
        -- the rest of the events is watched now
        refine iff_of_false hsome ?_
        rintro (h | h | h)
        · exact hactive h
        · exact hother h
        · exact hsome h

/-- **The loop watches what the calls add up to** after every call of a
sequence exactly when every call meets the condition, whatever the memory of
the watcher held. -/
theorem agrees_iff_meets (fd fd₀ : ℤ) (events : IOMask) (calls : List IoCall) :
    EveryStep (Watch.step fd) (fun _ _ s => s.Agrees) ⟨.createIoEvent fd₀ events, .NONE⟩ calls ↔
      EveryStep (Watch.step fd) (fun s c _ => s.watcher.Meets c)
        ⟨.createIoEvent fd₀ events, .NONE⟩ calls := by
  refine everyStep_iff_of_inv (I := Watch.Agrees) (fun s c s' hagrees hstep => ?_)
    (fun _ _ _ _ _ h => h) rfl
  obtain rfl := Option.some.inj hstep
  unfold Watch.Agrees at hagrees ⊢
  cases c with
  | start mask =>
    refine iff_of_true ?_ trivial
    exact (watched_start s.watcher fd mask).trans (congrArg (·.union mask) hagrees)
  | stop mask =>
    show (s.watcher.stopIoEvent fd mask).watched = s.wanted.diff mask ↔ _
    rw [← hagrees]
    exact watched_stop s.watcher fd mask

/-- A watcher that is stopped altogether and then once more for reading
watches for writing again. -/
theorem stopped_twice_watches :
    (Common.run (Watch.step 5) ⟨.createIoEvent (-1) .NONE, .NONE⟩
      [.start ⟨true, true⟩, .stop ⟨true, true⟩, .stop .READ]).map
        (fun s => (s.watcher.watched, s.wanted, decide s.Agrees)) =
      some (.WRITE, .NONE, false) := by
  decide

end Base

end XrtcServer
