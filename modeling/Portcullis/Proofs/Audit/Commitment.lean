import Mathlib.Data.List.Induction
import Mathlib.Data.List.Nodup
import Portcullis.Proofs.Audit.Custody
import Portcullis.Proofs.Audit.HashInput

/-! What the last hash of a chain says.

An event's hash is taken over everything the event holds but the hash itself, the hash before
included. As long as no two of the inputs have the same hash, the last hash tells the last event,
that event names the hash before, and so on to the start: **the last hash commits to the whole
chain** (`last_hash_commits`). Whoever takes events away, repeats them, puts them in another order
or changes one is found out by the check or by the last hash. -/
namespace Portcullis.Audit

/-! ### Hashes -/

/-- The digits hashes are written in. -/
def hashDigits : List Char :=
  ['0', '1', '2', '3', '4', '5', '6', '7', '8', '9', 'a', 'b', 'c', 'd', 'e', 'f']

/-- A hash is sixty-four hexadecimal digits in lower case. -/
def IsHash (s : String) : Prop := s.toList.length = 64 ∧ ∀ c ∈ s.toList, c ∈ hashDigits

/-- A hash takes sixty-four bytes. -/
theorem IsHash.length_utf8 {s : String} (h : IsHash s) : (utf8 s).length = 64 := by
  obtain ⟨hlength, hdigits⟩ := h
  have hsize : ∀ c ∈ hashDigits, c.utf8Size = 1 := by simp [hashDigits, Char.utf8Size]
  have hmap : (s.toList.map fun c => (String.utf8EncodeChar c).length) =
      s.toList.map fun _ => 1 := by
    refine List.map_congr_left fun c hc => ?_
    rw [String.length_utf8EncodeChar, hsize c (hdigits c hc)]
  rw [utf8_eq_encoded, encoded, List.length_flatMap, hmap, List.map_const', List.sum_replicate_nat,
    hlength]

theorem toList_genesisHash : genesisHash.toList = List.replicate 64 '0' := String.toList_ofList

theorem isHash_genesisHash : IsHash genesisHash := by
  constructor
  · rw [toList_genesisHash, List.length_replicate]
  · intro c hc
    rw [toList_genesisHash] at hc
    rw [List.eq_of_mem_replicate hc]
    decide

/-- The digest in use makes hashes. -/
theorem isHash_sha256 (message : List UInt8) : IsHash (sha256 message) := by
  have hdigit : ∀ n < 16, Nat.digitChar n ∈ hashDigits := by decide
  rw [sha256, Digest.Sha256.hexDigest, Digest.Sha256.hex, IsHash, String.toList_ofList]
  constructor
  · simp only [List.length_flatMap, List.length_cons, List.length_nil, List.map_const',
      List.sum_replicate_nat, Digest.Sha256.length_digest]
  · intro c hc
    obtain ⟨byte, -, hbyte⟩ := List.mem_flatMap.mp hc
    have hlt := byte.toNat_lt
    simp only [List.mem_cons, List.not_mem_nil, or_false] at hbyte
    rcases hbyte with rfl | rfl
    · exact hdigit _ (by omega)
    · exact hdigit _ (by omega)

/-! ### The digest on the events at hand -/

/-- The bytes that an event's hash is taken over. -/
def Event.input (e : Event) : List UInt8 := hashInput e.trailId e.sequence e.entry e.prevHash

/-- What a digest has to be on the bytes that events are hashed over: no two of them have the same
hash, and none has the hash that chains begin with. -/
structure SoundOn (H : Digest) (events : List Event) : Prop where
  collisionFree : ∀ a ∈ events, ∀ b ∈ events, H a.input = H b.input → a.input = b.input
  notGenesis : ∀ e ∈ events, H e.input ≠ genesisHash

variable {H : Digest} {events others : List Event}

theorem SoundOn.mono (h : SoundOn H events) (hsub : ∀ e ∈ others, e ∈ events) :
    SoundOn H others where
  collisionFree a ha b hb := h.collisionFree a (hsub a ha) b (hsub b hb)
  notGenesis e he := h.notGenesis e (hsub e he)

/-- Two events that carry the hash of what they hold are the same if they carry the same hash. -/
theorem SoundOn.eq_of_thisHash_eq (h : SoundOn H events) {a b : Event} (ha : a ∈ events)
    (hb : b ∈ events) (hahash : a.hash H = a.thisHash) (hbhash : b.hash H = b.thisHash)
    (hlength : (utf8 a.prevHash).length = (utf8 b.prevHash).length)
    (heq : a.thisHash = b.thisHash) : a = b := by
  have hinput : a.input = b.input := by
    apply h.collisionFree a ha b hb
    calc H a.input = a.thisHash := hahash
      _ = b.thisHash := heq
      _ = H b.input := hbhash.symm
  obtain ⟨htrail, hsequence, hentry, hprev⟩ := hashInput_inj hlength hinput
  cases a
  cases b
  simp_all

/-- An intact chain ends on a hash. -/
theorem isHash_endHash (hH : ∀ message, IsHash (H message)) (h : verify H events = true) :
    IsHash (endHash genesisHash events) := by
  rcases List.eq_nil_or_concat events with rfl | ⟨front, e, rfl⟩
  · exact isHash_genesisHash
  · rw [List.concat_eq_append] at h ⊢
    obtain ⟨-, -, hhash⟩ := (verify_append_singleton H).mp h
    rw [endHash_append, ← hhash]
    exact hH _

/-- Intact chains that end on the same hash are the same. -/
theorem eq_of_endHash_eq (hH : ∀ message, IsHash (H message)) (hs : SoundOn H (events ++ others))
    (hevents : verify H events = true) (hothers : verify H others = true)
    (h : endHash genesisHash events = endHash genesisHash others) : events = others := by
  -- From the last events back: the same hash makes them the same, and they name the hash before.
  induction events using List.reverseRecOn generalizing others with
  | nil =>
    rcases List.eq_nil_or_concat others with rfl | ⟨front, e, rfl⟩
    · rfl
    · rw [List.concat_eq_append] at *
      obtain ⟨-, -, hhash⟩ := (verify_append_singleton H).mp hothers
      rw [endHash_nil, endHash_append, ← hhash] at h
      exact absurd h.symm (hs.notGenesis e (by simp))
  | append_singleton events a ih =>
    obtain ⟨hfront, haprev, hahash⟩ := (verify_append_singleton H).mp hevents
    rcases List.eq_nil_or_concat others with rfl | ⟨others, b, rfl⟩
    · rw [endHash_nil, endHash_append, ← hahash] at h
      exact absurd h (hs.notGenesis a (by simp))
    · rw [List.concat_eq_append] at *
      obtain ⟨hfront', hbprev, hbhash⟩ := (verify_append_singleton H).mp hothers
      rw [endHash_append, endHash_append] at h
      have hlength : (utf8 a.prevHash).length = (utf8 b.prevHash).length := by
        rw [haprev, hbprev, (isHash_endHash hH hfront).length_utf8,
          (isHash_endHash hH hfront').length_utf8]
      have hlast : a = b :=
        hs.eq_of_thisHash_eq (by simp) (by simp) hahash hbhash hlength h
      subst hlast
      have hs' : SoundOn H (events ++ others) := hs.mono fun e he => by
        rcases List.mem_append.mp he with he | he <;> simp [he]
      rw [ih hs' hfront hfront' (haprev.symm.trans hbprev)]

/-! ### Tampering -/

/-- A list made of the events of an intact chain is intact only if it is a part it starts with. -/
theorem prefix_of_verify (hH : ∀ message, IsHash (H message)) (hs : SoundOn H events)
    (hevents : verify H events = true) (hsub : ∀ e ∈ others, e ∈ events)
    (hothers : verify H others = true) : others <+: events := by
  rcases List.eq_nil_or_concat others with rfl | ⟨front, e, rfl⟩
  · exact List.nil_prefix
  · rw [List.concat_eq_append] at *
    -- The last of them stands somewhere in the chain, which ends on the same hash there.
    obtain ⟨before, after, hplace⟩ := List.append_of_mem (hsub e (by simp))
    have hsplit : events = (before ++ [e]) ++ after := by
      rw [hplace, List.append_assoc, List.singleton_append]
    have hfront : before ++ [e] <+: events := ⟨after, hsplit.symm⟩
    have hsame : front ++ [e] = before ++ [e] := by
      refine eq_of_endHash_eq hH (hs.mono fun x hx => ?_) hothers
        (verify_front H hevents hfront) (by rw [endHash_append, endHash_append])
      rcases List.mem_append.mp hx with hx | hx
      · exact hsub x hx
      · exact hfront.subset hx
    rw [hsame]
    exact hfront

/-- An edit of one field leaves the hash that the event carries or changes nothing else. -/
theorem FieldEdit.apply_cases (H : Digest) (e : Event) (edit : FieldEdit) :
    (edit.apply H e).thisHash = e.thisHash ∨
      ∃ value, edit.apply H e = {e with thisHash := value} := by
  cases edit with
  | thisHash value => exact .inr ⟨value, rfl⟩
  | uppercaseHash => exact .inr ⟨_, rfl⟩
  | rehash => exact .inr ⟨_, rfl⟩
  | _ => exact .inl rfl

/-- An intact chain that is intact after the edit of one field was not changed. -/
theorem eq_of_verify_field (hevents : verify H events = true) {place : Nat} {edit : FieldEdit}
    (hs : SoundOn H (events ++ Edit.apply H events (.field place edit)))
    (h : verify H (Edit.apply H events (.field place edit)) = true) :
    Edit.apply H events (.field place edit) = events := by
  rw [Edit.apply] at hs h ⊢
  rcases Nat.lt_or_ge place events.length with hlt | hge
  · obtain ⟨front, e, back, hplace, -, hedited⟩ :=
      List.exists_of_modify (fun e => edit.apply H e) hlt
    rw [hedited] at hs h ⊢
    subst hplace
    -- Up to the event in question both are chains, and both events name the hash before.
    have hfront : ∀ x : Event, front ++ [x] <+: front ++ x :: back := fun x =>
      ⟨back, by rw [List.append_assoc, List.singleton_append]⟩
    obtain ⟨-, hprev, hhash⟩ :=
      (verify_append_singleton H).mp (verify_front H hevents (hfront e))
    obtain ⟨-, hprev', hhash'⟩ :=
      (verify_append_singleton H).mp (verify_front H h (hfront _))
    have hsame : edit.apply H e = e := by
      rcases edit.apply_cases H e with hthis | ⟨value, hvalue⟩
      · refine hs.eq_of_thisHash_eq (by simp) (by simp) hhash' hhash ?_ hthis
        rw [hprev, hprev']
      · rw [hvalue] at hhash' ⊢
        have hthis : e.thisHash = value := hhash.symm.trans hhash'
        rw [← hthis]
    rw [hsame]
  · rw [List.modify_eq_self hge]

/-- **The last hash commits to the whole chain.** Let the digest make hashes. Two chains that are
intact and end on the same hash are the same, as long as the digest is sound on what their events
hash. So are the parts that a trail's chain starts with the only intact chains that its events
make, and no field of an event is changed without breaking the chain. -/
theorem last_hash_commits (H : Digest) (hH : ∀ message, IsHash (H message)) :
    (∀ events others : List Event, events ≠ [] → others ≠ [] → SoundOn H (events ++ others) →
      verify H events = true → verify H others = true → lastHash? events = lastHash? others →
      events = others) ∧
    ∀ (id : String) (accesses : List Access) (now : Instant),
      let t := ((Gatehouse.opening (Trail.empty id)).accessed (Sink.trail H) accesses).sink
      let events := (t.snapshot now).events
      SoundOn H events →
      (∀ others : List Event, (∀ e ∈ others, e ∈ events) →
        (verify H others = true ↔ others <+: events)) ∧
      ∀ place edit,
        let edited := Edit.apply H events (.field place edit)
        SoundOn H (events ++ edited) → edited ≠ events → verify H edited = false := by
  constructor
  · intro events others _ _ hs hevents hothers hlast
    refine eq_of_endHash_eq hH hs hevents hothers ?_
    rw [endHash, endHash, hlast]
  · intro id accesses now t events hs
    have hevents : verify H events = true := isIntact_accessed H id accesses
    refine ⟨fun others hsub =>
      ⟨prefix_of_verify hH hs hevents hsub, verify_front H hevents⟩, ?_⟩
    intro place edit edited hs' hne
    rw [Bool.eq_false_iff]
    exact fun h => hne (eq_of_verify_field hevents hs' h)

/-! ### The digest in use

A trail that records twice why a generator gave nothing, and what others make of its events. -/

/-- The bytes that the hash of an event is taken over, for a trail named by a letter. -/
theorem hashInput_eq (sequence : UInt64) (entry : Entry) (prevHash : String) :
    hashInput "t" sequence entry prevHash = encoded "t".toList ++ littleEndian 8 sequence.toNat ++
      encoded prevHash.toList ++ encoded entry.toJson.render := by
  have htext : entry.toJson.compact.toList = entry.toJson.render := String.toList_ofList
  rw [hashInput, utf8_eq_encoded, utf8_eq_encoded, utf8_eq_encoded, htext]

theorem toList_sha256 (message : List UInt8) : (sha256 message).toList =
    (Digest.Sha256.digest message).flatMap fun byte =>
      [Nat.digitChar (byte.toNat / 16), Nat.digitChar (byte.toNat % 16)] :=
  String.toList_ofList

/-- The first byte of a digest shows in the first digit of the hash. -/
theorem head?_sha256 {message : List UInt8} {byte : UInt8}
    (h : (Digest.Sha256.digest message).head? = some byte) :
    (sha256 message).toList.head? = some (Nat.digitChar (byte.toNat / 16)) := by
  obtain ⟨rest, hrest⟩ := List.head?_eq_some_iff.mp h
  rw [toList_sha256, hrest]
  rfl

/-- Events whose hashes begin with different digits, and not with zero, leave the digest sound. -/
theorem soundOn_of_head? (fronts : List Char) (hd : fronts.Nodup) (hz : '0' ∉ fronts)
    (h : events.map (fun e => (H e.input).toList.head?) = fronts.map some) : SoundOn H events := by
  have hnodup : (events.map fun e => (H e.input).toList.head?).Nodup := by
    rw [h]
    exact hd.map fun _ _ => Option.some.inj
  constructor
  · intro a ha b hb heq
    have hsame : (H a.input).toList.head? = (H b.input).toList.head? := by rw [heq]
    rw [List.inj_on_of_nodup_map hnodup ha hb hsame]
  · intro e he heq
    have hmem : (H e.input).toList.head? ∈ fronts.map some := by
      rw [← h]
      exact List.mem_map_of_mem he
    rw [heq, toList_genesisHash] at hmem
    obtain ⟨c, hc, hzero⟩ := List.mem_map.mp hmem
    cases hzero
    exact hz hc

def noPolicy (reason : String) : Entry := ⟨.generationFailed "gate" reason, .epoch⟩

theorem digest_down : Digest.Sha256.digest (hashInput "t" 0 (noPolicy "down") genesisHash) =
    [230, 27, 175, 33, 148, 32, 115, 102, 244, 117, 0, 127, 64, 116, 231, 244, 192, 6, 6, 180, 134,
      10, 32, 162, 98, 248, 117, 31, 178, 160, 10, 36] := by
  rw [hashInput_eq, toList_genesisHash]
  decide +kernel

theorem digest_busy :
    (Digest.Sha256.digest (hashInput "t" 0 (noPolicy "busy") genesisHash)).head? = some 46 := by
  rw [hashInput_eq, toList_genesisHash]
  decide +kernel

theorem digest_busy_behind_down :
    (Digest.Sha256.digest (hashInput "t" 1 (noPolicy "busy")
      (sha256 (hashInput "t" 0 (noPolicy "down") genesisHash)))).head? = some 186 := by
  rw [hashInput_eq, toList_sha256, digest_down]
  decide +kernel

/-- The events of a trail that recorded these entries. -/
def recorded (entries : List Entry) : List Event :=
  (((Gatehouse.opening (Trail.empty "t")).accessed (Sink.trail sha256)
    (entries.map .record)).sink.snapshot .epoch).events

/-- The digest in use commits to such a trail. A trail that only recorded the second reason ends on
another hash. The trail's first event is a chain; the second one alone, both in the other order and
both twice are none, and neither are both with another reason in the first. -/
theorem last_hash_commits_sha256 :
    let events := recorded [noPolicy "down", noPolicy "busy"]
    let others := recorded [noPolicy "busy"]
    let edited := Edit.apply sha256 events (.field 0 (.entry (noPolicy "busy")))
    ((∀ message, IsHash (sha256 message)) ∧ SoundOn sha256 (events ++ others) ∧
      SoundOn sha256 (events ++ edited)) ∧
      lastHash? events ≠ lastHash? others ∧ verify sha256 (events.take 1) = true ∧
      verify sha256 (events.drop 1) = false ∧ verify sha256 events.reverse = false ∧
      verify sha256 (events ++ events) = false ∧ verify sha256 edited = false := by
  intro events others edited
  let first := (Trail.empty "t").nextEvent sha256 (noPolicy "down")
  let second :=
    ((Trail.empty "t").record sha256 (noPolicy "down")).nextEvent sha256 (noPolicy "busy")
  let early := (Trail.empty "t").nextEvent sha256 (noPolicy "busy")
  let revised : Event := {first with entry := noPolicy "busy"}
  have hevents : events = [first, second] := rfl
  have hothers : others = [early] := rfl
  have hedited : edited = [revised, second] := by
    show Edit.apply sha256 events _ = _
    rw [hevents]
    rfl
  -- Three inputs are hashed: those of the two events, and the second reason in first place.
  have hsound : ∀ x : Event, x.input = hashInput "t" 0 (noPolicy "busy") genesisHash →
      SoundOn sha256 [first, second, x] := by
    intro x hx
    have hfirst : (sha256 first.input).toList.head? = some 'e' :=
      head?_sha256 (congrArg List.head? digest_down)
    have hsecond : (sha256 second.input).toList.head? = some 'b' :=
      head?_sha256 digest_busy_behind_down
    have hlast : (sha256 x.input).toList.head? = some '2' := by
      rw [hx]
      exact head?_sha256 digest_busy
    apply soundOn_of_head? ['e', 'b', '2'] (by decide) (by decide)
    simp only [List.map_cons, List.map_nil, hfirst, hsecond, hlast]
  have hboth : SoundOn sha256 (events ++ others) := hsound early rfl
  have hchange : SoundOn sha256 (events ++ edited) := by
    rw [hevents, hedited]
    refine (hsound revised rfl).mono fun e he => ?_
    simp only [List.mem_append, List.mem_cons, List.not_mem_nil, or_false] at he ⊢
    tauto
  obtain ⟨hends, htrail⟩ := last_hash_commits sha256 isHash_sha256
  obtain ⟨hsub, hedit⟩ := htrail "t" ([noPolicy "down", noPolicy "busy"].map .record) .epoch
    (hboth.mono fun e => List.mem_append_left _)
  have hbroken : ∀ others : List Event, (∀ e ∈ others, e ∈ events) → ¬others <+: events →
      verify sha256 others = false := by
    intro others hin hnot
    rw [Bool.eq_false_iff]
    exact fun h => hnot ((hsub others hin).mp h)
  have hdiffer : first ≠ second := by
    intro heq
    have hplace : (0 : UInt64) = 1 := congrArg Event.sequence heq
    exact absurd hplace (by decide)
  refine ⟨⟨isHash_sha256, hboth, hchange⟩, ?_, ?_, ?_, ?_, ?_, ?_⟩
  · intro hlast
    have hsame := hends events others (by simp [hevents]) (by simp [hothers]) hboth
      (isIntact_accessed sha256 "t" _) (isIntact_accessed sha256 "t" _) hlast
    rw [hevents, hothers] at hsame
    exact absurd (congrArg List.length hsame) (by simp)
  · exact (hsub _ fun e he => List.mem_of_mem_take he).mpr (List.take_prefix 1 events)
  · refine hbroken _ (fun e he => List.mem_of_mem_drop he) ?_
    rw [hevents]
    simp [Ne.symm hdiffer]
  · refine hbroken _ (fun e he => List.mem_reverse.mp he) ?_
    rw [hevents]
    simp [Ne.symm hdiffer]
  · refine hbroken _ (fun e he => (List.mem_append.mp he).elim id id) ?_
    intro hfront
    have hle := hfront.length_le
    rw [hevents] at hle
    exact absurd hle (by simp)
  · refine hedit 0 (.entry (noPolicy "busy")) hchange ?_
    intro heq
    have hsame : edited = events := heq
    rw [hevents, hedited] at hsame
    have hentry : noPolicy "busy" = noPolicy "down" := congrArg Event.entry (List.cons.inj hsame).1
    exact absurd hentry (by decide)

end Portcullis.Audit
