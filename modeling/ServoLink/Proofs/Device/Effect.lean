import ServoLink.Proofs.Device.Channel
import ServoLink.Proofs.Link.Course

/-!
# What a frame changes, and who is told

A link hosts some components of a station. A frame that is found on it either counts as
undeliverable, and then nothing of the station has changed and nobody was told; or it is
delivered on the key of a component, and then one entry has been replaced by the value that
the frame carries, and the observer of that key, if there is one, was called once, when the
value stood in its entry (`Station.turn_effect`). Other components, other entries and other
observers have no part in it.
-/

namespace ServoLink

open Registry

variable {σ α μ : Type}

/-- A mount that keeps a record of its observers: for each value that one of them is told,
the value and what the component held at that moment. -/
structure Mount.Witnessed (m : Mount σ α μ) (heard : μ → Bool) (journal : σ → List (μ × α)) :
    Prop extends m.Lawful where
  journal_set : ∀ a s, journal (m.set a s) = journal s
  journal_notify : ∀ v s,
    journal (m.notify v s).2 = journal s ++ if heard v then [(v, m.get s)] else []

namespace Registry

/-- **A slot that fails to deliver a frame** leaves the state alone, unless it has a handler
that refused the content. -/
theorem deliver_failed {slot : Slot σ} {f : Frame} {s s' : σ} {d : Dispatch}
    (h : deliver slot f s = (.ok d, s')) (hd : d.isSuccess = false) :
    s' = s ∨ ∃ h reason, slot = .handler h ∧ h.receive f s = (.rejected reason, s') := by
  rcases slot with _ | _ | handler
  · exact .inl (congrArg Prod.snd h).symm
  · exact .inl (congrArg Prod.snd h).symm
  · unfold deliver at h
    dsimp only at h
    split at h
    · exact .inl (congrArg Prod.snd h).symm
    · split at h
      · exact .inl (congrArg Prod.snd h).symm
      · rcases hreceive : handler.receive f s with ⟨accepted | reason | fault, s₁⟩ <;>
          rw [hreceive] at h
        · cases h
          cases hd
        · cases h
          exact .inr ⟨handler, reason, rfl, hreceive⟩
        · cases h

end Registry

namespace Endpoint

/-- **A frame that fails is counted as such, and nothing else**: no hit is counted, and
nothing is queued. -/
theorem settled_of_failed {d : Dispatch} (hd : d.isSuccess = false) (e : Endpoint σ) (f : Frame)
    (report : ParseReport) :
    let e' := (e.settled f report d).2
    e'.registry = e.registry ∧ e'.queue = e.queue ∧ e'.nextSeq = e.nextSeq ∧
      e'.counters.framesEnqueued = e.counters.framesEnqueued := by
  have htick : e.registry.tick f d = e.registry := by
    unfold tick
    rw [hd]
    exact if_neg Bool.false_ne_true
  cases d with
  | delivered | accepted | reply => cases hd
  | unregistered | lengthMismatch | rejected => exact ⟨htick, rfl, rfl, rfl⟩

end Endpoint

namespace Station

variable {mount : Mount σ Station Notice} {heard : Key → Bool}
  {journal : σ → List (Notice × Station)} {parts : List Part} {e : Endpoint σ}

/-- **A link that hosts some components of a station**: on their keys stands what the station
has registered there. A handler on another key that refuses a frame leaves the values of the
station and the record of its observers alone, and so does the tap. -/
structure Hosts (mount : Mount σ Station Notice) (journal : σ → List (Notice × Station))
    (parts : List Part) (e : Endpoint σ) : Prop where
  slots : ∀ c : Channel, c.part ∈ parts → e.registry.slot c.key = slot mount c.key
  others : ∀ {k h f s s' reason}, e.registry.slot k = .handler h →
    (∀ c : Channel, c.part ∈ parts → c.key ≠ k) → h.receive f s = (.rejected reason, s') →
    mount.get s' = mount.get s ∧ journal s' = journal s
  tap : ∀ tap, e.tap = some tap → Tap.Keeps tap mount.get ∧ Tap.Keeps tap journal

/-- Binding some components leaves all other keys alone. -/
theorem slot_bindAll_of_ne {k : Key} (hk : ∀ c : Channel, c.part ∈ parts → c.key ≠ k)
    (e : Endpoint σ) : (bindAll mount parts e).registry.slot k = e.registry.slot k := by
  induction parts with
  | nil => rfl
  | cons p parts ih =>
    refine Eq.trans ?_ (ih fun c hc => hk c (List.mem_cons_of_mem _ hc))
    show (Part.bind mount p (bindAll mount parts e)).registry.slot k = _
    have hne (c : Channel) (hc : c.part = p) : k ≠ c.key := (hk c (by simp [hc])).symm
    cases p with
    | motors =>
      exact (if_neg (hne .motorPid rfl)).trans <| (if_neg (hne .motorSetpoints rfl)).trans <|
        (if_neg (hne .motorSettings rfl)).trans <| (if_neg (hne .motorInfo rfl)).trans <|
        if_neg (hne .motorFeedback rfl)
    | encoders =>
      exact (if_neg (hne .encoderSettings rfl)).trans <| (if_neg (hne .encoderInfo rfl)).trans <|
        if_neg (hne .encoderFeedback rfl)
    | update =>
      exact (if_neg (hne .firmwareCrc rfl)).trans <| if_neg (hne .firmwareChunk rfl)
    | system => exact if_neg (hne .systemRaw rfl)

/-- Nor does it set a tap. -/
theorem tap_bindAll (mount : Mount σ Station Notice) (parts : List Part) (e : Endpoint σ) :
    (bindAll mount parts e).tap = e.tap := by
  induction parts with
  | nil => rfl
  | cons p parts ih =>
    refine Eq.trans ?_ ih
    cases p <;> rfl

/-- **A fresh link on which some components are bound hosts them**, whatever the observers
do. -/
theorem hosts_bindAll (mount : Mount σ Station Notice) (journal : σ → List (Notice × Station))
    (parts : List Part) (config : LinkConfig) :
    Hosts mount journal parts (bindAll mount parts (.new config)) where
  slots c hc := slot_bindAll mount hc _
  others hslot hk _ := by
    rw [slot_bindAll_of_ne hk] at hslot
    cases hslot
  tap _ hset := by
    rw [tap_bindAll] at hset
    cases hset

/-! ## One turn -/

variable {f : Frame} {s s' : σ} {d : Dispatch}

/-- What is settled once a frame has come to an outcome, and that the tap leaves what the
slot has made of the station. -/
theorem Hosts.handle (he : Hosts mount journal parts e)
    (hdeliver : deliver (e.registry.slot f.key) f s = (.ok d, s')) (report : ParseReport) :
    let after := e.handle report s (.frame f)
    after.2.1 = (e.settled f report d).2 ∧ mount.get after.2.2 = mount.get s' ∧
      journal after.2.2 = journal s' := by
  intro after
  have hafter : after = _ := Endpoint.handle_of_ok hdeliver report
  have htap : (e.settled f report d).2.tap = e.tap :=
    (Endpoint.ran_settled (congrArg Prod.fst hdeliver) report).tap
  rw [hafter]
  dsimp only
  unfold Endpoint.tell
  rw [htap]
  rcases hset : e.tap with _ | tap
  · exact ⟨rfl, rfl, rfl⟩
  · obtain ⟨hget, hjournal⟩ := he.tap tap hset
    exact ⟨rfl, hget f d _ s', hjournal f d _ s'⟩

/-- **A frame that fails leaves the station and its observers alone**, on whatever key. -/
theorem Hosts.untouched (he : Hosts mount journal parts e)
    (hdeliver : deliver (e.registry.slot f.key) f s = (.ok d, s')) (hd : d.isSuccess = false) :
    mount.get s' = mount.get s ∧ journal s' = journal s := by
  by_cases hk : ∃ c : Channel, c.part ∈ parts ∧ c.key = f.key
  · obtain ⟨c, hc, hkey⟩ := hk
    have hcomes := comes_deliver mount c f s
    rw [← he.slots c hc, hkey, hdeliver] at hcomes
    cases hcomes with
    | nothing => exact ⟨rfl, rfl⟩
    | stored => cases hd
  · rcases deliver_failed hdeliver hd with rfl | ⟨h, reason, hslot, hrefused⟩
    · exact ⟨rfl, rfl⟩
    · exact he.others hslot (fun c hc hkey => hk ⟨c, hc, hkey⟩) hrefused

/-- **What a frame changes, and who is told.** Let a link host some components of a station,
whose observers raise no fault, and take any frame in any state. If its outcome is a failure,
the values of the station and the record of its observers are as before, no key has one more
hit, and nothing is queued. If it is delivered on the key of a component, the payload reads as
a value with an entry; this entry is replaced by the value, and no other is; and the observer
of the key, if there is one, was called once, with that value, when the station held what it
holds now. A value that has no entry, because it is about a motor that does not exist, is
rejected. -/
theorem turn_effect (hm : mount.Witnessed (fun n => heard n.key) journal)
    (he : Hosts mount journal parts e) (report : ParseReport) (s : σ) (f : Frame) :
    let e' := (e.handle report s (.frame f)).2.1
    let s' := (e.handle report s (.frame f)).2.2
    let outcome := outcome e.registry.slot ⟨f, s⟩
    (∀ d, outcome = .ok d → d.isSuccess = false →
      mount.get s' = mount.get s ∧ journal s' = journal s ∧
        (∀ k, e'.registry.hits k = e.registry.hits k) ∧ e'.queue = e.queue ∧
        e'.counters.framesEnqueued = e.counters.framesEnqueued) ∧
    ∀ c : Channel, c.part ∈ parts → f.key = c.key →
      (outcome = .ok .delivered →
        ∃ n x, c.read f.payload = .ok n ∧ n.entry? = some x ∧
          (mount.get s).Replaces x n (mount.get s') ∧
          journal s' = journal s ++ if heard c.key then [(n, mount.get s')] else []) ∧
      ∀ n, c.read f.payload = .ok n → n.entry? = none →
        ∃ motor, outcome = .ok (.rejected (.instanceOutOfRange motor motorCount)) := by
  intro e' s' outcome
  obtain ⟨answer, s₁, hdeliver⟩ :
      ∃ answer s₁, deliver (e.registry.slot f.key) f s = (answer, s₁) := ⟨_, _, rfl⟩
  rw [show outcome = answer from congrArg Prod.fst hdeliver]
  refine ⟨fun d houtcome hd => ?_, fun c hc hkey => ⟨fun houtcome => ?_, fun n hread hnone => ?_⟩⟩
  · rw [houtcome] at hdeliver
    obtain ⟨hsettled, hget, hjournal⟩ := he.handle hdeliver report
    obtain ⟨hget', hjournal'⟩ := he.untouched hdeliver hd
    obtain ⟨hregistry, hqueue, -, hcounted⟩ := Endpoint.settled_of_failed hd e f report
    rw [show e' = (e.settled f report d).2 from hsettled]
    exact ⟨hget.trans hget', hjournal.trans hjournal', fun k => by rw [hregistry], hqueue,
      hcounted⟩
  · rw [houtcome] at hdeliver
    obtain ⟨-, hget, hjournal⟩ := he.handle hdeliver report
    have hcomes := comes_deliver mount c f s
    rw [← he.slots c hc, ← hkey, hdeliver] at hcomes
    cases hcomes with
    | nothing hd => exact absurd rfl hd
    | @stored n st _ hread hstore hnotify =>
      have hs₁ : s₁ = (mount.notify n (mount.set st s)).2 := (congrArg Prod.snd hnotify).symm
      have hnow : mount.get s' = st := by
        rw [show mount.get s' = mount.get s₁ from hget, hs₁, hm.get_notify, hm.get_set]
      have hheard : journal s' = journal s ++ if heard c.key then [(n, st)] else [] := by
        rw [show journal s' = journal s₁ from hjournal, hs₁, hm.journal_notify, hm.get_set,
          hm.journal_set, Channel.key_of_read hread]
      obtain ⟨x, hentry, hreplaces⟩ := replaces_of_absorb hstore
      rw [← hnow] at hreplaces hheard
      exact ⟨n, x, hread, hentry, hreplaces, hheard⟩
  · rcases (mount.get s).absorbs n with ⟨x, st, hentry, -, -⟩ | ⟨motor, -, hrefused⟩
    · cases hnone.symm.trans hentry
    · have hreceived := deliver_of_read mount hread s
      rw [Mount.receive_of_error hrefused, ← he.slots c hc, ← hkey, hdeliver] at hreceived
      exact ⟨motor, congrArg Prod.fst hreceived⟩

/-- A link with motors only takes the identity of motor 3, under the eyes of an observer of
identities, and rejects that of a motor 9. -/
theorem turn_effect_motor :
    let heard (k : Key) : Bool := k == Motors.infoKey
    let mount : Mount (Station × List (Notice × Station)) Station Notice :=
      { get := Prod.fst
        set := fun st s => (st, s.2)
        notify := fun n s => (none, s.1, s.2 ++ if heard n.key then [(n, s.1)] else []) }
    let e := bindAll mount [.motors] (.new {})
    let info (motor : UInt8) : Notice := .motors (.info { motorId := motor })
    let after (n : Notice) := (e.handle {} ({}, []) (.frame (.forKey n.key n.payload))).2.2
    (after (info 3)).1.entry (.motorInfo ⟨3, by decide⟩) = info 3 ∧
      (after (info 3)).2 = [(info 3, (after (info 3)).1)] ∧ after (info 9) = ({}, []) := by
  intro heard mount e info after
  have hm : mount.Witnessed (fun n => heard n.key) Prod.snd :=
    ⟨⟨fun _ _ => rfl, fun _ _ => rfl, fun _ _ => rfl⟩, fun _ _ => rfl, fun _ _ => rfl⟩
  have he := hosts_bindAll mount Prod.snd [.motors] {}
  obtain ⟨-, hmotors⟩ := turn_effect hm he {} ({}, [])
    (.forKey (info 3).key (info 3).payload)
  obtain ⟨hdelivered, -⟩ := hmotors .motorInfo (List.mem_singleton_self _) rfl
  obtain ⟨n, x, hread, hentry, hreplaces, hheard⟩ := hdelivered rfl
  obtain rfl : info 3 = n := Except.ok.inj hread
  obtain rfl : .motorInfo ⟨3, by decide⟩ = x := Option.some.inj hentry
  obtain ⟨hrefused, -⟩ := turn_effect hm he {} ({}, [])
    (.forKey (info 9).key (info 9).payload)
  obtain ⟨hget, hjournal, -⟩ := hrefused _ rfl rfl
  exact ⟨(congrFun hreplaces.entries _).trans (Function.update_self ..), hheard,
    Prod.ext hget hjournal⟩

end Station

end ServoLink
