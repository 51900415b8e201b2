import StayRide.Bookings.CreateRaces

/-!
# Exactly one winner

Any number of requests for the same days of one resource, written with the same
texts, so that they share one lock.  No awaited call fails and no lock expires.

A race has two phases.  While it is `Undecided` nothing has been inserted, and a
request that has already given up did so because another one was at work in the lock
section.  It is `Decided` by the first insert: from then on the days are taken, the
second check stops every other request, and the first one to insert is the only one.
`contest_reach` is the invariant that every reachable state is in one of the two
phases; `exactly_one_winner` reads off what is left when all requests have finished.
-/

namespace StayRide

open Lib

variable {ι : Type}

/-- No awaited call fails and no lock expires. -/
def NoFailure (_ : CreateConfig ι) : CreateMove ι → Prop
  | .process _ (.succeeds _) => True
  | .process _ .fails | .environment _ => False

/-! ## The phases of a race -/

/-- Nothing inserted yet, and not stopped by the second check. -/
def CreatePc.isUndecided : CreatePc → Prop
  | .releaseLock _ => False
  | .done result => result = .error bookingInProgress
  | _ => True

/-- Not about to insert, and an outcome, if there is one, is a conflict. -/
def CreatePc.isLosing : CreatePc → Prop
  | .insert => False
  | .releaseLock result | .done result => ∃ message, result = .error (.conflict message)
  | _ => True

/-- The booking has been inserted under this key. -/
def CreatePc.hasInserted (id : BookingId) (booking : Booking) : CreatePc → Prop
  | .releaseLock result | .done result => result = .ok (id, booking)
  | _ => False

section Phases

variable (lib : DateLib) (req : ι → CreateRequest) (start : Desk ι)

/-- No request has inserted yet. -/
structure Undecided (c : CreateConfig ι) : Prop where
  bookings_eq : c.shared.bookings = start.bookings
  undecided : ∀ i, (c.pc i).isUndecided
  /-- A request gives up only while another one is at work. -/
  contended : ∀ i, (c.pc i).rank = 0 → ∃ j, (c.pc j).inSection = true

/-- The winner has inserted its booking. -/
structure Decided (winner : ι) (booking : Booking) (c : CreateConfig ι) : Prop where
  row_eq : ∃ now, (req winner).row lib now = some booking
  bookings_eq : c.shared.bookings = start.bookings.insertRow booking
  inserted : (c.pc winner).hasInserted start.bookings.length booking
  losing : ∀ i, i ≠ winner → (c.pc i).isLosing

/-- What holds in every state of the race for the days behind `lock`. -/
structure Contest (lock : String) (c : CreateConfig ι) : Prop where
  owned : Owned req c
  /-- A lock that is set is the lock of a request at work. -/
  held : c.shared.redis lock ≠ none → ∃ i, (c.pc i).inSection = true
  phase : Undecided start c ∨ ∃ winner booking, Decided lib req start winner booking c

end Phases

/-! ## What a step does to the phases -/

section Steps

variable {lib : DateLib} {req : ι → CreateRequest} {start : Desk ι} {lock : String}
  {resourceType : ResourceType} {resourceId : ResourceId} {first last : Day}

/-- Once the race is decided, the days are taken. -/
theorem Decided.check_eq
    (hres : OneResource lib req resourceType resourceId (fun _ => first) fun _ => last)
    {winner : ι} {booking : Booking} {c : CreateConfig ι}
    (h : Decided lib req start winner booking c) (i : ι) :
    (req i).check lib c.shared.bookings = .ok false := by
  rw [hres.check_eq, Except.ok.injEq]
  by_contra havailable
  rw [Bool.not_eq_false, isAvailable_eq_true] at havailable
  obtain ⟨now, hrow⟩ := h.row_eq
  -- The row of the winner claims the very days that request `i` asks for.
  have hconflict : booking.conflictsWith resourceId resourceType first last = true := by
    refine (hres.conflictsWith_iff (i := i) hrow).mpr fun hdisjoint => ?_
    rw [disjoint_self] at hdisjoint
    exact (Set.nonempty_Ico.mpr (hres.nonempty i)).ne_empty hdisjoint
  have hinserted : c.shared.bookings[start.bookings.length]? = some booking := by
    rw [h.bookings_eq]
    exact Table.getElem?_insertRow_self start.bookings booking
  rw [havailable _ booking hinserted] at hconflict
  cases hconflict

/-- What the requests of a decided race return when they have finished. -/
theorem Decided.outcome {winner : ι} {booking : Booking} {c : CreateConfig ι}
    (h : Decided lib req start winner booking c)
    (hdone : ∀ i, ∃ result, c.pc i = .done result) :
    c.pc winner = .done (.ok (start.bookings.length, booking)) ∧
      ∀ i, i ≠ winner → ∃ message, c.pc i = .done (.error (.conflict message)) := by
  refine ⟨?_, fun i hi => ?_⟩
  · obtain ⟨result, hresult⟩ := hdone winner
    have hinserted := h.inserted
    rw [hresult] at hinserted ⊢
    rw [show result = .ok (start.bookings.length, booking) from hinserted]
  · obtain ⟨result, hresult⟩ := hdone i
    have hlosing := h.losing i hi
    rw [hresult] at hlosing ⊢
    obtain ⟨message, hmessage⟩ := hlosing
    exact ⟨message, by rw [hmessage]⟩

variable [DecidableEq ι]

/-- A request is at work after a step that takes no request out of the lock section. -/
theorem exists_inSection_update {c : CreateConfig ι} {i : ι} {pc : CreatePc}
    (h : ∃ j, (c.pc j).inSection = true)
    (hkeep : (c.pc i).inSection = true → pc.inSection = true) :
    ∃ j, (Function.update c.pc i pc j).inSection = true := by
  obtain ⟨j, hj⟩ := h
  by_cases hji : j = i
  · subst hji
    exact ⟨j, by rw [Function.update_self]; exact hkeep hj⟩
  · exact ⟨j, by rw [Function.update_of_ne hji]; exact hj⟩

/-- The step keeps the lock held by requests at work. -/
theorem held_step (hlock : ∀ i, (req i).lock = lock) {c : CreateConfig ι}
    (h : c.shared.redis lock ≠ none → ∃ i, (c.pc i).inSection = true) {i : ι} {now : Time}
    {desk : Desk ι} {pc : CreatePc}
    (hstep : CreateStep lib req i (.succeeds now) c.shared (c.pc i) desk pc) :
    desk.redis lock ≠ none → ∃ j, (Function.update c.pc i pc j).inSection = true := by
  intro hheld
  generalize hpc : c.pc i = old at hstep
  cases hstep with
  | acquire => exact ⟨i, by rw [Function.update_self]; rfl⟩
  | release result =>
      rw [hlock i] at hheld
      exact absurd (Function.update_self ..) hheld
  | pass | refuse | wait =>
      exact exists_inSection_update (h hheld) fun hi => by rw [hpc] at hi; cases hi
  | confirm | lose | insert | abort => exact exists_inSection_update (h hheld) fun _ => rfl
  | strand result hfails => cases hfails

/-- A step that inserts nothing, finishes no request and ends no work leaves the race
undecided. -/
theorem Undecided.quiet {c : CreateConfig ι} (h : Undecided start c) {i : ι} {desk : Desk ι}
    {pc : CreatePc} (hbookings : desk.bookings = c.shared.bookings) (hpc : pc.isUndecided)
    (hrank : pc.rank ≠ 0) (hkeep : (c.pc i).inSection = true → pc.inSection = true) :
    Undecided start ⟨desk, Function.update c.pc i pc⟩ := by
  refine ⟨hbookings.trans h.bookings_eq, ?_, ?_⟩
  · exact (Function.forall_update_iff c.pc fun _ p => p.isUndecided).mpr
      ⟨hpc, fun k _ => h.undecided k⟩
  · refine (Function.forall_update_iff c.pc fun _ p => p.rank = 0 →
      ∃ j, (Function.update c.pc i pc j).inSection = true).mpr
        ⟨fun hzero => absurd hzero hrank, fun k _ hzero => ?_⟩
    exact exists_inSection_update (h.contended k hzero) hkeep

/-- The first insert decides the race: no other request is about to insert, since it
would hold the same lock. -/
theorem Undecided.decide (hlock : ∀ i, (req i).lock = lock) {c : CreateConfig ι}
    (h : Undecided start c) (howned : Owned req c) {i : ι} (hpc : c.pc i = .insert)
    {now : Time} {booking : Booking} (hrow : (req i).row lib now = some booking) :
    Decided lib req start i booking
      ⟨{ c.shared with bookings := c.shared.bookings.insertRow booking },
        Function.update c.pc i (.releaseLock (.ok (c.shared.bookings.length, booking)))⟩ := by
  refine ⟨⟨now, hrow⟩, ?_, ?_, fun k hk => ?_⟩
  · rw [← h.bookings_eq]
  · show (Function.update c.pc i _ i).hasInserted _ _
    rw [Function.update_self, ← h.bookings_eq]
    rfl
  · show (Function.update c.pc i _ k).isLosing
    rw [Function.update_of_ne hk]
    have hk' := h.undecided k
    cases hpck : c.pc k with
    | insert =>
        have hne := howned.lock_ne hk (by rw [hpck]; rfl) (by rw [hpc]; rfl)
        rw [hlock, hlock] at hne
        exact absurd rfl hne
    | releaseLock result =>
        rw [hpck] at hk'
        exact hk'.elim
    | done result =>
        rw [hpck] at hk'
        exact ⟨_, hk'⟩
    | checkAvailability | acquireLock | recheck => trivial

/-- **A step of an undecided race** leaves it undecided or is the deciding insert. -/
theorem Undecided.step (hlock : ∀ i, (req i).lock = lock)
    (hfree : ∀ i, (req i).check lib start.bookings = .ok true)
    (hrows : ∀ i now, (req i).row lib now ≠ none) {c : CreateConfig ι}
    (h : Undecided start c) (howned : Owned req c)
    (hheld : c.shared.redis lock ≠ none → ∃ i, (c.pc i).inSection = true) {i : ι}
    {now : Time} {desk : Desk ι} {pc : CreatePc}
    (hstep : CreateStep lib req i (.succeeds now) c.shared (c.pc i) desk pc) :
    Undecided start ⟨desk, Function.update c.pc i pc⟩ ∨
      ∃ booking, Decided lib req start i booking ⟨desk, Function.update c.pc i pc⟩ := by
  have hself := h.undecided i
  have hcheck : (req i).check lib c.shared.bookings = .ok true := by
    rw [h.bookings_eq]
    exact hfree i
  generalize hpc : c.pc i = old at hstep hself
  cases hstep with
  | pass =>
      refine Or.inl (h.quiet rfl trivial (Nat.succ_ne_zero 3) fun hi => ?_)
      rw [hpc] at hi
      cases hi
  | refuse e hrefused =>
      rw [hcheck] at hrefused
      rcases hrefused with ⟨hfalse, -⟩ | herror | hfails
      · cases hfalse
      · cases herror
      · cases hfails
  | acquire => exact Or.inl (h.quiet rfl trivial (Nat.succ_ne_zero 2) fun _ => rfl)
  | wait e hwait =>
      rcases hwait with ⟨htaken, rfl⟩ | hfails
      · -- The request gives up: the lock is held by one at work.
        rw [hlock i] at htaken
        refine Or.inl ⟨h.bookings_eq, ?_, fun _ _ => ?_⟩
        · exact (Function.forall_update_iff c.pc fun _ p => p.isUndecided).mpr
            ⟨rfl, fun k _ => h.undecided k⟩
        · refine exists_inSection_update (hheld htaken) fun hi => ?_
          rw [hpc] at hi
          cases hi
      · cases hfails
  | confirm => exact Or.inl (h.quiet rfl trivial (Nat.succ_ne_zero 1) fun _ => rfl)
  | lose e hlost =>
      rw [hcheck] at hlost
      rcases hlost with ⟨hfalse, -⟩ | herror | hfails
      · cases hfalse
      · cases herror
      · cases hfails
  | @insert now' booking hrow => exact Or.inr ⟨booking, h.decide hlock howned hpc hrow⟩
  | abort haborted =>
      rcases haborted with ⟨now', hnone⟩ | hfails
      · exact absurd hnone (hrows i now')
      · cases hfails
  | release | strand => exact hself.elim

/-- **A step of a decided race** leaves it decided, with the same winner. -/
theorem Decided.step
    (hres : OneResource lib req resourceType resourceId (fun _ => first) fun _ => last)
    {winner : ι} {booking : Booking} {c : CreateConfig ι}
    (h : Decided lib req start winner booking c) {i : ι} {now : Time} {desk : Desk ι}
    {pc : CreatePc} (hstep : CreateStep lib req i (.succeeds now) c.shared (c.pc i) desk pc) :
    Decided lib req start winner booking ⟨desk, Function.update c.pc i pc⟩ := by
  have hcheck := h.check_eq hres i
  -- The other requests are where they were.
  have hlosing : ∀ {pc' : CreatePc}, (i ≠ winner → pc'.isLosing) →
      ∀ k, k ≠ winner → (Function.update c.pc i pc' k).isLosing := fun hpc' =>
    (Function.forall_update_iff c.pc fun k p => k ≠ winner → p.isLosing).mpr
      ⟨hpc', fun k _ => h.losing k⟩
  by_cases hi : i = winner
  · subst hi
    have hself := h.inserted
    generalize hpc : c.pc i = old at hstep hself
    cases hstep with
    | release result =>
        refine ⟨h.row_eq, h.bookings_eq, ?_, hlosing fun hne => absurd rfl hne⟩
        show (Function.update c.pc i _ i).hasInserted _ _
        rw [Function.update_self]
        exact hself
    | strand result hfails => cases hfails
    | pass | refuse | acquire | wait | confirm | lose | insert | abort => exact hself.elim
  · have hself := h.losing i hi
    have hstays : ∀ {desk' : Desk ι} {pc' : CreatePc},
        desk'.bookings = c.shared.bookings → pc'.isLosing →
        Decided lib req start winner booking ⟨desk', Function.update c.pc i pc'⟩ := by
      intro desk' pc' hbookings hpc'
      refine ⟨h.row_eq, hbookings.trans h.bookings_eq, ?_, hlosing fun _ => hpc'⟩
      show (Function.update c.pc i pc' winner).hasInserted _ _
      rw [Function.update_of_ne (Ne.symm hi)]
      exact h.inserted
    generalize hpc : c.pc i = old at hstep hself
    cases hstep with
    | pass | acquire => exact hstays rfl trivial
    | refuse e hrefused =>
        rw [hcheck] at hrefused
        rcases hrefused with ⟨-, rfl⟩ | herror | hfails
        · exact hstays rfl ⟨_, rfl⟩
        · cases herror
        · cases hfails
    | wait e hwait =>
        rcases hwait with ⟨-, rfl⟩ | hfails
        · exact hstays rfl ⟨_, rfl⟩
        · cases hfails
    | confirm hpassed =>
        rw [hcheck] at hpassed
        cases hpassed
    | lose e hlost =>
        rw [hcheck] at hlost
        rcases hlost with ⟨-, rfl⟩ | herror | hfails
        · exact hstays rfl ⟨_, rfl⟩
        · cases herror
        · cases hfails
    | insert | abort => exact hself.elim
    | release result => exact hstays rfl hself
    | strand result hfails => cases hfails

/-- Every state of the race is undecided or decided. -/
theorem contest_reach (hlock : ∀ i, (req i).lock = lock)
    (hres : OneResource lib req resourceType resourceId (fun _ => first) fun _ => last)
    (hfree : ∀ i, (req i).check lib start.bookings = .ok true)
    (hrows : ∀ i now, (req i).row lib now ≠ none) (hunlocked : start.redis lock = none)
    {c : CreateConfig ι} (h : Reach (createSystem lib req) NoFailure (createStart start) c) :
    Contest lib req start lock c := by
  refine interleave_invariant ?_ (fun c i a s p hI hG hact => ?_) (fun c key s _ hG _ => ?_) h
  · refine ⟨fun i hi => (by cases hi), fun hheld => absurd hunlocked hheld, Or.inl ?_⟩
    exact ⟨rfl, fun _ => trivial, fun i hi => absurd hi (Nat.succ_ne_zero 4)⟩
  · cases a with
    | fails => cases hG
    | succeeds now =>
        have hstep := createStep_cases lib req hact
        refine ⟨hI.owned.step hstep, held_step hlock hI.held hstep, ?_⟩
        rcases hI.phase with hundecided | ⟨winner, booking, hdecided⟩
        · rcases hundecided.step hlock hfree hrows hI.owned hI.held hstep with
            hstill | ⟨booking, hnow⟩
          · exact Or.inl hstill
          · exact Or.inr ⟨i, booking, hnow⟩
        · exact Or.inr ⟨winner, booking, hdecided.step hres hstep⟩
  · cases hG

/-- Every race can be run to its end. -/
theorem exists_all_done [Fintype ι] (lib : DateLib) (req : ι → CreateRequest)
    (c : CreateConfig ι) :
    ∃ c', Reach (createSystem lib req) NoFailure c c' ∧ ∀ i, (c'.pc i).rank = 0 := by
  refine exists_finished CreatePc.rank (fun c i hrank => ?_) Reach.refl
  obtain ⟨desk, pc, hact⟩ := createStep_enabled lib req i (.succeeds 0) c.shared hrank
  exact ⟨.succeeds 0, desk, pc, trivial, hact, (createStep_cases lib req hact).rank_lt⟩

end Steps

/-! ## The end of the race -/

section Winner

variable [DecidableEq ι]

/-- **Exactly one winner.**  Any number of requests for the same available days of one
resource, written with the same texts, with the lock free at the start; no awaited call
fails, the prices fit their columns, and no lock expires.  Whatever the interleaving:

* when all requests have finished, one of them has inserted its booking and returned it,
  all others have thrown a conflict, nothing else was inserted, and the lock is gone;
* from every state on the way all requests can finish. -/
theorem exactly_one_winner [Fintype ι] [Nonempty ι] (lib : DateLib) (req : ι → CreateRequest)
    (resourceType : ResourceType) (resourceId : ResourceId) (startDate endDate : String)
    (first last : Day)
    (hres : OneResource lib req resourceType resourceId (fun _ => first) fun _ => last)
    (htexts : ∀ i, (req i).dto.startDate = startDate ∧ (req i).dto.endDate = endDate)
    (start : Desk ι)
    (hfree : isAvailable start.bookings resourceId resourceType first last = true)
    (hunlocked : ∀ i, start.redis (req i).lock = none)
    (hprices : ∀ i, (calculatePrice lib (req i).dto).toColumns ≠ none) (c : CreateConfig ι)
    (h : Reach (createSystem lib req) NoFailure (createStart start) c) :
    ((∀ i, ∃ result, c.pc i = .done result) →
      ∃ winner booking, (∃ now, (req winner).row lib now = some booking) ∧
        c.pc winner = .done (.ok (start.bookings.length, booking)) ∧
        (∀ i, i ≠ winner → ∃ message, c.pc i = .done (.error (.conflict message))) ∧
        c.shared.bookings = start.bookings.insertRow booking ∧
        ∀ i, c.shared.redis (req i).lock = none) ∧
    ∃ c', Reach (createSystem lib req) NoFailure c c' ∧
      ∀ i, ∃ result, c'.pc i = .done result := by
  have hlock : ∀ i, (req i).lock =
      Redis.lockName (resourceType.text ++ ":" ++ resourceId ++ ":" ++ startDate ++ ":" ++
        endDate) := by
    intro i
    rw [CreateRequest.lock, CreateBookingDto.lockKey, hres.resourceType_eq, hres.resourceId_eq,
      (htexts i).1, (htexts i).2]
  refine ⟨fun hdone => ?_, ?_⟩
  · have hbusy : ¬ ∃ i, (c.pc i).inSection = true := by
      rintro ⟨i, hi⟩
      obtain ⟨result, hresult⟩ := hdone i
      rw [hresult] at hi
      cases hi
    have hcontest := contest_reach hlock hres
      (fun i => by rw [hres.check_eq, hfree]) (fun i now => hres.row_ne_none now (hprices i))
      (by rw [← hlock (Classical.arbitrary ι)]; exact hunlocked _) h
    rcases hcontest.phase with hundecided | ⟨winner, booking, hdecided⟩
    · -- Some request has given up, so another one is at work.
      obtain ⟨result, hresult⟩ := hdone (Classical.arbitrary ι)
      exact absurd (hundecided.contended _ (by rw [hresult]; rfl)) hbusy
    · obtain ⟨hwinner, hothers⟩ := hdecided.outcome hdone
      refine ⟨winner, booking, hdecided.row_eq, hwinner, hothers, hdecided.bookings_eq,
        fun i => ?_⟩
      by_contra hheld
      rw [hlock i] at hheld
      exact hbusy (hcontest.held hheld)
  · obtain ⟨c', hreach, hrank⟩ := exists_all_done lib req c
    exact ⟨c', hreach, fun i => CreatePc.rank_eq_zero (hrank i)⟩

end Winner

/-- Both customers of `Demo.rush` want the same days: their race comes to an end, and one
of them has got the house. -/
theorem exactly_one_winner_rush : ∃ c,
    Reach (createSystem Demo.dates Demo.rush) NoFailure (createStart Demo.emptyDesk) c ∧
    ∃ winner booking, c.pc winner = .done (.ok (0, booking)) ∧
      ∀ i, i ≠ winner → ∃ message, c.pc i = .done (.error (.conflict message)) := by
  have hres : OneResource Demo.dates Demo.rush .property "villa" (fun _ => 20270)
      (fun _ => 20274) :=
    ⟨fun _ => rfl, fun _ => rfl, by decide, by decide, by decide⟩
  have hprices : ∀ i, (calculatePrice Demo.dates (Demo.rush i).dto).toColumns ≠ none := by
    intro i
    rw [← Option.isSome_iff_ne_none]
    show ((calculatePrice Demo.dates (Demo.villa "2025-07-01" "2025-07-05")).toColumns).isSome
    decide +kernel
  have hall := exactly_one_winner Demo.dates Demo.rush .property "villa" "2025-07-01"
    "2025-07-05" 20270 20274 hres (fun _ => ⟨rfl, rfl⟩) Demo.emptyDesk (by decide)
    (fun _ => rfl) hprices
  obtain ⟨c, hreach, hdone⟩ := (hall (createStart Demo.emptyDesk) Reach.refl).2
  obtain ⟨winner, booking, -, hwinner, hothers, -⟩ := (hall c hreach).1 hdone
  exact ⟨c, hreach, winner, booking, hwinner, hothers⟩

end StayRide
