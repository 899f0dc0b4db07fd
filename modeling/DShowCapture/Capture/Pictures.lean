/-
What the encoder reads.

All entries of the queue point to the same buffer.  The picture that was put with an entry
is the one that is encoded only if no other sample is converted in the meantime.
-/
import DShowCapture.Capture
import Mathlib.Data.List.Sort

namespace DShowCapture

open ConditionVariable Runs

namespace Capture

/-- The pictures that were encoded are among the captured ones, in order and none twice, and
each is the one that was put with its entry. -/
def PicturesIntact (capture : Capture) : Prop :=
  (capture.reads.map Prod.snd).Sublist (List.range' 1 capture.samples) ∧
    ∀ read, read ∈ capture.reads → capture.puts[read.1]? = some read.2

/-- No sample is converted while the sender holds an entry, and the sender takes an entry
only when no sample was converted since that was put. -/
def KeepsPicture (capture : Capture) (action : CaptureAction) : Prop :=
  (action = .convert → capture.holding = none) ∧
    (action.senderTakes = true → ∀ picture,
      capture.puts[(delivered capture.queue.history).length]? = some picture →
        picture = capture.yuvBuf)

def Took (capture : Capture) (entry picture : Nat) : Prop :=
  entry < (delivered capture.queue.history).length ∧ capture.puts[entry]? = some picture

theorem Took.mono {before after : Capture} {entry picture : Nat}
    (took : before.Took entry picture)
    (more : (delivered before.queue.history).length ≤ (delivered after.queue.history).length)
    (keeps : before.puts <+: after.puts) : after.Took entry picture := by
  rcases took with ⟨earlier, put⟩
  rcases keeps with ⟨later, putsEq⟩
  have inRange := (List.getElem?_eq_some_iff.mp put).1
  refine ⟨Nat.lt_of_lt_of_le earlier more, ?_⟩
  rw [← putsEq, List.getElem?_append_left inRange]
  exact put

structure Ordered (capture : Capture) : Prop where
  latest : capture.yuvBuf = capture.samples
  increasing : capture.puts.Pairwise (· < ·)
  captured : ∀ picture, picture ∈ capture.puts → 0 < picture ∧ picture ≤ capture.samples
  notYet : capture.point ≠ .converting → 0 < capture.samples ∧
    ∀ picture, picture ∈ capture.puts → picture < capture.samples
  waits : capture.point = .dropping ∨ capture.queue.waiters.Outside .callback
  queues : ∃ frames, capture.queue.Queues frames ∧
    (delivered capture.queue.history).length + frames.length = capture.puts.length
  held : ∀ entry, capture.holding = some entry → capture.Took entry capture.yuvBuf
  reads : ∀ read, read ∈ capture.reads → capture.Took read.1 read.2
  inOrder : (capture.reads.map Prod.fst ++ capture.holding.toList).Pairwise (· < ·)

theorem Ordered.outside {capture : Capture} (ordered : capture.Ordered)
    (elsewhere : capture.point ≠ .dropping) : capture.queue.waiters.Outside .callback :=
  ordered.waits.resolve_left elsewhere

theorem ordered_initial : initial.Ordered :=
  { latest := rfl
    increasing := List.Pairwise.nil
    captured := fun picture member => by cases member
    notYet := fun later => absurd rfl later
    waits := Or.inr ⟨Finset.notMem_empty _, Finset.notMem_empty _⟩
    queues := ⟨[], QueueState.queues_started, rfl⟩
    held := fun entry holds => by cases holds
    reads := fun read member => by cases member
    inOrder := List.Pairwise.nil }

private theorem length_delivered_get (history : List QueueEvent) (frame : StreamBuf) :
    (delivered (history ++ [.get 1 (some frame)])).length = (delivered history).length + 1 := by
  rw [delivered_append_singleton, List.length_append]
  rfl

theorem Ordered.callbackGet {capture : Capture} (ordered : capture.Ordered)
    (dropping : capture.point = .dropping)
    (leaves : (capture.queue.waiters.leave .callback).Outside .callback) :
    capture.callbackGet.Ordered := by
  rcases ordered.queues with ⟨frames, queues, counted⟩
  have later : capture.point ≠ .converting := by
    rw [dropping]
    decide
  cases frames with
  | nil =>
      obtain ⟨roundEq, queueEq⟩ := queues.get_of_empty .callback
      have after : capture.callbackGet =
          { capture with
            queue :=
              { capture.queue with waiters := capture.queue.waiters.sleep .callback } } := by
        simp only [Capture.callbackGet, roundEq, queueEq]
      rw [after]
      exact
        { latest := ordered.latest
          increasing := ordered.increasing
          captured := ordered.captured
          notYet := ordered.notYet
          waits := Or.inl dropping
          queues := ⟨[], { cells := queues.cells, running := queues.running }, counted⟩
          held := ordered.held
          reads := ordered.reads
          inOrder := ordered.inOrder }
  | cons frame rest =>
      obtain ⟨roundEq, queuesAfter, waitersEq, historyEq⟩ := queues.get .callback
      have after : capture.callbackGet =
          { capture with queue := capture.queue.runGet .callback true, point := .putting } := by
        simp only [Capture.callbackGet, roundEq]
      have takenEq := length_delivered_get capture.queue.history frame
      rw [← historyEq] at takenEq
      rw [List.length_cons] at counted
      have keeps : ∀ {entry picture : Nat}, capture.Took entry picture →
          capture.callbackGet.Took entry picture :=
        fun took => took.mono (Nat.le_trans (Nat.le_succ _) takenEq.ge) List.prefix_rfl
      rw [after] at keeps ⊢
      refine
        { latest := ordered.latest
          increasing := ordered.increasing
          captured := ordered.captured
          notYet := fun _ => ordered.notYet later
          waits := Or.inr ?_
          queues := ⟨rest, queuesAfter, ?_⟩
          held := fun entry holds => keeps (ordered.held entry holds)
          reads := fun read member => keeps (ordered.reads read member)
          inOrder := ordered.inOrder }
      · change (capture.queue.runGet .callback true).waiters.Outside .callback
        rw [waitersEq]
        exact leaves
      · change (delivered (capture.queue.runGet .callback true).history).length + rest.length =
          capture.puts.length
        omega

theorem Ordered.senderGet {capture : Capture} (ordered : capture.Ordered)
    (current : ∀ picture,
      capture.puts[(delivered capture.queue.history).length]? = some picture →
        picture = capture.yuvBuf) : capture.senderGet.Ordered := by
  rcases ordered.queues with ⟨frames, queues, counted⟩
  have readsInOrder := (List.pairwise_append.mp ordered.inOrder).1
  cases frames with
  | nil =>
      obtain ⟨roundEq, queueEq⟩ := queues.get_of_empty .sender
      have after : capture.senderGet =
          { capture with
            queue := { capture.queue with waiters := capture.queue.waiters.sleep .sender }
            holding := none } := by
        simp only [Capture.senderGet, roundEq, queueEq]
      rw [after]
      refine
        { latest := ordered.latest
          increasing := ordered.increasing
          captured := ordered.captured
          notYet := ordered.notYet
          waits := ordered.waits.imp_right fun outside => outside.sleep (by decide)
          queues := ⟨[], { cells := queues.cells, running := queues.running }, counted⟩
          held := fun entry holds => by cases holds
          reads := ordered.reads
          inOrder := ?_ }
      change (capture.reads.map Prod.fst ++ []).Pairwise (· < ·)
      rw [List.append_nil]
      exact readsInOrder
  | cons frame rest =>
      obtain ⟨roundEq, queuesAfter, waitersEq, historyEq⟩ := queues.get .sender
      have takenEq := length_delivered_get capture.queue.history frame
      rw [← historyEq] at takenEq
      rw [List.length_cons] at counted
      have waits : capture.point = .dropping ∨
          (capture.queue.runGet .sender true).waiters.Outside .callback := by
        rw [waitersEq]
        exact ordered.waits.imp_right fun outside => outside.leave
      have countedAfter : (delivered (capture.queue.runGet .sender true).history).length +
          rest.length = capture.puts.length := by
        omega
      have keeps : ∀ {entry picture : Nat}, capture.Took entry picture →
          capture.senderGet.Took entry picture :=
        fun took => took.mono (Nat.le_trans (Nat.le_succ _) takenEq.ge) List.prefix_rfl
      have takes : ∀ entry, capture.senderGet.holding = some entry →
          entry = (delivered capture.queue.history).length := by
        intro entry holds
        simp only [Capture.senderGet, roundEq] at holds
        split at holds
        · exact (Option.some.inj holds).symm
        · cases holds
      refine
        { latest := ordered.latest
          increasing := ordered.increasing
          captured := ordered.captured
          notYet := ordered.notYet
          waits := waits
          queues := ⟨rest, queuesAfter, countedAfter⟩
          held := fun entry holds => ?_
          reads := fun read member => keeps (ordered.reads read member)
          inOrder := ?_ }
      · obtain rfl := takes entry holds
        have inRange : (delivered capture.queue.history).length < capture.puts.length := by
          omega
        have put := List.getElem?_eq_getElem inRange
        have isCurrent := current _ put
        rw [isCurrent] at put
        exact ⟨takenEq ▸ Nat.lt_succ_self _, put⟩
      · refine List.pairwise_append.mpr ⟨readsInOrder, ?_, ?_⟩
        · cases capture.senderGet.holding with
          | none => exact List.Pairwise.nil
          | some entry => exact List.pairwise_singleton _ entry
        · intro earlier inReads entry isHeld
          obtain ⟨read, member, rfl⟩ := List.mem_map.mp inReads
          obtain rfl := takes entry (Option.mem_toList.mp isHeld)
          exact (ordered.reads read member).1

theorem Ordered.put {capture : Capture} {queue : QueueState CaptureThread} {frame : StreamBuf}
    {frame1 : Nat} {wakes : Option CaptureThread} (ordered : capture.Ordered)
    (putting : capture.point = .putting)
    (taken : capture.queue.step (.put .callback frame frame1 wakes) = some queue) :
    Ordered
      { capture with
        queue := queue
        point := .converting
        puts := capture.puts ++ [capture.yuvBuf] } := by
  rcases ordered.queues with ⟨frames, queues, counted⟩
  obtain ⟨queuesAfter, signalled, historyEq⟩ := queues.put taken
  have outside := ordered.outside (by simp [putting])
  have newer := ordered.notYet (by simp [putting])
  have deliveredEq : delivered queue.history = delivered capture.queue.history := by
    rw [historyEq, delivered_append_singleton]
    exact List.append_nil _
  let after : Capture :=
    { capture with
      queue := queue
      point := .converting
      puts := capture.puts ++ [capture.yuvBuf] }
  have keeps : ∀ {entry picture : Nat}, capture.Took entry picture → after.Took entry picture :=
    fun took => took.mono (Nat.le_of_eq (congrArg List.length deliveredEq.symm))
      (List.prefix_append _ _)
  refine
    { latest := ordered.latest
      increasing := ?_
      captured := fun picture member => ?_
      notYet := fun later => absurd rfl later
      waits := Or.inr (outside.signal signalled)
      queues := ⟨_, queuesAfter, ?_⟩
      held := fun entry holds => keeps (ordered.held entry holds)
      reads := fun read member => keeps (ordered.reads read member)
      inOrder := ordered.inOrder }
  · refine List.pairwise_append.mpr
      ⟨ordered.increasing, List.pairwise_singleton _ capture.yuvBuf, ?_⟩
    intro earlier isPut picture isNew
    rw [List.mem_singleton.mp isNew, ordered.latest]
    exact newer.2 earlier isPut
  · rcases List.mem_append.mp member with isPut | isNew
    · exact ordered.captured picture isPut
    · rw [List.mem_singleton.mp isNew, ordered.latest]
      exact ⟨newer.1, Nat.le_refl _⟩
  · change (delivered queue.history).length + _ = (capture.puts ++ [capture.yuvBuf]).length
    rw [deliveredEq, List.length_append, List.length_append, List.length_singleton,
      List.length_singleton, ← counted, Nat.add_assoc]

theorem Ordered.convert {video : VidParam} {before after : Capture} (ordered : before.Ordered)
    (sent : before.holding = none) (taken : before.step video .convert = some after) :
    after.Ordered := by
  obtain ⟨converting, stepEq⟩ := Option.ite_none_right_eq_some.mp taken
  cases stepEq
  have outside := ordered.outside (by simp [converting])
  exact
    { latest := rfl
      increasing := ordered.increasing
      captured := fun picture member =>
        (ordered.captured picture member).imp_right Nat.le_succ_of_le
      notYet := fun _ => ⟨Nat.succ_pos _, fun picture member =>
        Nat.lt_succ_of_le (ordered.captured picture member).2⟩
      waits := Or.inr outside
      queues := ordered.queues
      held := fun entry holds => by
        rw [show before.holding = some entry from holds] at sent
        cases sent
      reads := ordered.reads
      inOrder := ordered.inOrder }

theorem Ordered.count {video : VidParam} {before after : Capture} (ordered : before.Ordered)
    (taken : before.step video .count = some after) : after.Ordered := by
  obtain ⟨counting, stepEq⟩ := Option.ite_none_right_eq_some.mp taken
  obtain ⟨queue, counts, rfl⟩ := Option.map_eq_some_iff.mp stepEq
  obtain rfl := QueueState.step_count counts
  have outside := ordered.outside (by simp [counting])
  have newer := ordered.notYet (by simp [counting])
  rcases ordered.queues with ⟨frames, queues, counted⟩
  have deliveredEq :
      delivered (before.queue.history ++ [.count before.queue.memory.queue.nbPackets]) =
        delivered before.queue.history := by
    rw [delivered_append_singleton]
    exact List.append_nil _
  have keeps : ∀ {entry picture : Nat}, before.Took entry picture →
      Took
        { before with
          queue :=
            { before.queue with
              history :=
                before.queue.history ++ [.count before.queue.memory.queue.nbPackets] } }
        entry picture :=
    fun took => took.mono (Nat.le_of_eq (congrArg List.length deliveredEq.symm))
      List.prefix_rfl
  refine
    { latest := ordered.latest
      increasing := ordered.increasing
      captured := ordered.captured
      notYet := fun _ => newer
      waits := Or.inr outside
      queues := ⟨frames, { cells := queues.cells, running := queues.running }, ?_⟩
      held := fun entry holds => keeps (ordered.held entry holds)
      reads := fun read member => keeps (ordered.reads read member)
      inOrder := ordered.inOrder }
  rw [deliveredEq]
  exact counted

theorem Ordered.encode {video : VidParam} {before after : Capture} (ordered : before.Ordered)
    (taken : before.step video .encode = some after) : after.Ordered := by
  obtain ⟨entry, isHeld, rfl⟩ := Option.map_eq_some_iff.mp taken
  have held := ordered.held entry isHeld
  have inOrder := ordered.inOrder
  rw [isHeld] at inOrder
  refine
    { latest := ordered.latest
      increasing := ordered.increasing
      captured := ordered.captured
      notYet := ordered.notYet
      waits := ordered.waits
      queues := ordered.queues
      held := fun entry holds => by cases holds
      reads := fun read member => ?_
      inOrder := ?_ }
  · rcases List.mem_append.mp member with earlier | isNew
    · exact ordered.reads read earlier
    · rw [List.mem_singleton.mp isNew]
      exact held
  · change ((before.reads ++ [(entry, before.yuvBuf)]).map Prod.fst ++ []).Pairwise (· < ·)
    rw [List.append_nil, List.map_append]
    exact inOrder

theorem Ordered.step {video : VidParam} {before after : Capture} {action : CaptureAction}
    (ordered : before.Ordered) (keeps : before.KeepsPicture action)
    (taken : before.step video action = some after) : after.Ordered := by
  rcases keeps with ⟨idle, current⟩
  cases action with
  | convert => exact ordered.convert (idle rfl) taken
  | count => exact ordered.count taken
  | drop =>
      obtain ⟨enabled, stepEq⟩ := Option.ite_none_right_eq_some.mp taken
      cases stepEq
      exact ordered.callbackGet enabled.1 enabled.2.leave
  | put frame1 wakes =>
      obtain ⟨putting, stepEq⟩ := Option.ite_none_right_eq_some.mp taken
      obtain ⟨queue, puts, rfl⟩ := Option.map_eq_some_iff.mp stepEq
      rcases ordered.queues with ⟨frames, queues, _⟩
      rw [queues.running]
      exact ordered.put putting puts
  | senderGet =>
      obtain ⟨_, stepEq⟩ := Option.ite_none_right_eq_some.mp taken
      cases stepEq
      exact ordered.senderGet (current rfl)
  | encode => exact ordered.encode taken
  | resume thread =>
      cases thread with
      | callback =>
          obtain ⟨isWoken, stepEq⟩ := Option.ite_none_right_eq_some.mp taken
          cases stepEq
          have dropping := ordered.waits.resolve_right fun outside => outside.2 isWoken
          exact ordered.callbackGet dropping (Waiters.outside_leave_of_mem isWoken)
      | sender =>
          obtain ⟨_, stepEq⟩ := Option.ite_none_right_eq_some.mp taken
          cases stepEq
          exact ordered.senderGet (current rfl)
  | wakeUp thread =>
      obtain ⟨queue, wakes, rfl⟩ := Option.map_eq_some_iff.mp taken
      obtain ⟨isAsleep, rfl⟩ := QueueState.step_wakeUp wakes
      rcases ordered.queues with ⟨frames, queues, counted⟩
      exact
        { latest := ordered.latest
          increasing := ordered.increasing
          captured := ordered.captured
          notYet := ordered.notYet
          waits := ordered.waits.imp_right fun outside => outside.wake isAsleep
          queues := ⟨frames, { cells := queues.cells, running := queues.running }, counted⟩
          held := ordered.held
          reads := ordered.reads
          inOrder := ordered.inOrder }

theorem Ordered.pictures_increasing {capture : Capture} (ordered : capture.Ordered) :
    (capture.reads.map Prod.snd).Pairwise (· < ·) := by
  have entries := (List.pairwise_append.mp ordered.inOrder).1
  rw [List.pairwise_map] at entries ⊢
  refine entries.imp_of_mem fun {read later} isRead isLater earlier => ?_
  obtain ⟨readBound, readPut⟩ := List.getElem?_eq_some_iff.mp (ordered.reads read isRead).2
  obtain ⟨laterBound, laterPut⟩ := List.getElem?_eq_some_iff.mp (ordered.reads later isLater).2
  rw [← readPut, ← laterPut]
  exact List.pairwise_iff_getElem.mp ordered.increasing _ _ readBound laterBound earlier

theorem Ordered.intact {capture : Capture} (ordered : capture.Ordered) :
    capture.PicturesIntact := by
  refine ⟨?_, fun read member => (ordered.reads read member).2⟩
  have increasing := ordered.pictures_increasing
  have captured : capture.reads.map Prod.snd ⊆ List.range' 1 capture.samples := by
    intro picture member
    obtain ⟨read, isRead, rfl⟩ := List.mem_map.mp member
    have bounds := ordered.captured read.2 (List.mem_of_getElem? (ordered.reads read isRead).2)
    exact List.mem_range'_1.mpr (by omega)
  have distinct : (capture.reads.map Prod.snd).Nodup := increasing.imp Nat.ne_of_lt
  exact List.sublist_of_subperm_of_pairwise (List.subperm_of_subset distinct captured) increasing
    List.pairwise_lt_range'

/-- When no sample is converted between the put of an entry and its encoding, Encode reads
what was captured. -/
theorem picturesIntact {video : VidParam} {capture : Capture}
    (reached : Reaches (step video) KeepsPicture initial capture) : capture.PicturesIntact :=
  (reached.invariant ordered_initial fun _ _ _ before keeps taken =>
    before.step keeps taken).intact

private def rgbVideo : VidParam :=
  { nColorFormat := .rgb24, nWidth := 2, nHeight := 2, pYUVBuf := 4096 }

private def keepsPicture? (capture : Capture) (action : CaptureAction) : Bool :=
  (action != .convert || capture.holding == none) &&
    (!action.senderTakes ||
      (capture.puts[(delivered capture.queue.history).length]?).all (· == capture.yuvBuf))

private theorem keepsPicture_of_check (capture : Capture) (action : CaptureAction)
    (checked : keepsPicture? capture action = true) : capture.KeepsPicture action := by
  obtain ⟨idle, current⟩ := Bool.and_eq_true_iff.mp checked
  refine ⟨?_, fun takes picture put => ?_⟩
  · rintro rfl
    exact beq_iff_eq.mp idle
  · rw [takes, put] at current
    exact beq_iff_eq.mp current

/-- The sender keeps up with the camera. -/
theorem picturesIntact_alternating :
    let actions : List CaptureAction :=
      [.convert, .put 8 none, .senderGet, .encode, .convert, .put 8 none, .senderGet, .encode]
    ∃ capture, run (step rgbVideo) keepsPicture? initial actions = some capture ∧
      capture.PicturesIntact := by
  intro actions
  have runs : (run (step rgbVideo) keepsPicture? initial actions).isSome = true := by
    decide
  obtain ⟨capture, ran⟩ := Option.isSome_iff_exists.mp runs
  exact ⟨capture, ran, picturesIntact (reaches_of_run keepsPicture_of_check .start ran)⟩

/-- The camera is two samples ahead: the second picture is encoded twice, the first never. -/
theorem not_picturesIntact_reached :
    ∃ capture, Reaches (step rgbVideo) anyStep initial capture ∧
      capture.reads.map Prod.snd = [2, 2] ∧ ¬ capture.PicturesIntact := by
  let actions : List CaptureAction :=
    [.convert, .put 8 none, .convert, .put 16 none, .senderGet, .encode, .senderGet, .encode]
  have runs : (run (step rgbVideo) (fun _ _ => true) initial actions).isSome = true ∧
      ∀ capture, run (step rgbVideo) (fun _ _ => true) initial actions = some capture →
        capture.reads = [(0, 2), (1, 2)] ∧ capture.puts = [1, 2] := by
    decide
  obtain ⟨capture, ran⟩ := Option.isSome_iff_exists.mp runs.1
  obtain ⟨readsEq, putsEq⟩ := runs.2 capture ran
  refine ⟨capture, reaches_of_run (fun _ _ _ => trivial) .start ran, by rw [readsEq]; rfl, ?_⟩
  rintro ⟨_, asPut⟩
  have first := asPut (0, 2) (by rw [readsEq]; exact List.mem_cons_self)
  rw [putsEq] at first
  cases first

end Capture

end DShowCapture
