import GatewayCompiler.Proofs.NameLengths
import GatewayCompiler.Render.Cluster

/-!
# What the name of a cluster tells

The name of a cluster is made of the namespace, the name and the port of its service and of a digest
of its settings.  As long as digests of different texts differ, clusters with the same name have the
same port number, the same strategy, the same protocol and the same numbers in their health checks.
The free texts among the settings are joined without regard to the separator, so that they are told
apart only where they do not contain it.

## Main definitions

* `Cluster.settingsText`, `Cluster.fullName` — the texts that digests are taken of.
* `Apart` — the digests taken for two clusters differ where these texts do.
* `SameSettings` — what clusters with the same name have in common.
* `Tidy` — the free texts of a cluster leave no doubt.

## Main statements

* `Cluster.messageName_shows` — the parts of a name.
* `sameSettings_of_messageName_eq` — what the name of a cluster tells in any case.
* `service_eq_of_messageName_eq`, `sameTexts_of_settingsText_eq` — what it tells of clusters that
  are tidy.
-/

namespace GatewayCompiler

open Proxy

/-! ### The parts of a name -/

namespace Cluster

/-- `c.settingsText` is the text of the settings, of which `c.digest` is taken. -/
def settingsText (c : Cluster) : String := ";".intercalate c.nameParts

/-- `c.digest` stands at the end of the name of a cluster, to tell clusters with different settings
apart. -/
def digest (c : Cluster) : String := hashPrefix (textBytes c.settingsText) nameDigestBytes

/-- `c.segments` are the segments of the name of a cluster: its service, its port and `c.digest`. -/
def segments (c : Cluster) : List String :=
  [c.backend.target.service.space, c.backend.target.service.name,
    toString c.backend.target.portNumber, c.digest]

/-- `c.fullName` is the name of a cluster before it is shortened, of which segments that are cut
have a digest. -/
def fullName (c : Cluster) : String := joinSegments c.segments

/-- `c.IsLong` says that the name of `c` does not fit as it is, so that it is shortened. -/
def IsLong (c : Cluster) : Prop := nameLimit ≤ c.fullName.length

theorem messageName_eq (c : Cluster) : c.messageName = hashname nameLimit c.segments := rfl

theorem length_digest (c : Cluster) : c.digest.length = 10 := length_hashPrefix _ (by decide)

theorem free_digest (c : Cluster) : Free '/' c.digest := free_hashPrefix _ _

/-- `c.ShowsSegment segment shown` says that `shown` stands for `segment` in the name of `c`: as it
is, or cut when the name is long. -/
inductive ShowsSegment (c : Cluster) (segment : String) : String → Prop
  /-- It stands as it is. -/
  | whole : ShowsSegment c segment segment
  /-- It is too long and is cut. -/
  | cut (isLong : c.IsLong) (long : nameLimit / 4 < segment.length) :
      ShowsSegment c segment (truncate (nameLimit / 4) segment (cutSuffix c.segments))

theorem ShowsSegment.of_shows {c : Cluster} {segment shown : String} (isLong : c.IsLong)
    (h : Shows (nameLimit / 4) (cutSuffix c.segments) segment shown) :
    c.ShowsSegment segment shown := by
  cases h with
  | whole => exact .whole
  | cut long => exact .cut isLong long

/-- The name of a cluster shows its service, its port and the digest, with slashes between them. -/
theorem messageName_shows (c : Cluster) : ∃ space name port,
    c.ShowsSegment c.backend.target.service.space space ∧
    c.ShowsSegment c.backend.target.service.name name ∧
    c.ShowsSegment (toString c.backend.target.portNumber) port ∧
    c.messageName = joinSegments [space, name, port, c.digest] := by
  rw [messageName_eq]
  by_cases hlong : c.IsLong
  · obtain ⟨space, name, port, hspace, hname, hport, heq⟩ := hashname_four_of_long
      (show c.digest.length ≤ nameLimit / 4 by rw [length_digest]; decide)
      (by rw [length_digest]; decide) hlong
    exact ⟨space, name, port, .of_shows hlong hspace, .of_shows hlong hname,
      .of_shows hlong hport, heq⟩
  · exact ⟨_, _, _, .whole, .whole, .whole, hashname_of_fits (Nat.not_le.mp hlong)⟩

/-- A slash does not come into a segment when it is cut: the suffix of a cut is a dash with
digits. -/
theorem ShowsSegment.free {c : Cluster} {segment shown : String}
    (h : c.ShowsSegment segment shown) (hfree : Free '/' segment) : Free '/' shown := by
  cases h with
  | whole => exact hfree
  | cut => exact free_truncate hfree _ _

end Cluster

variable {a b : Cluster}

theorem free_portText (c : Cluster) : Free '/' (toString c.backend.target.portNumber) :=
  free_toString_int (by decide) (by decide) _

/-- `Apart a b` says that the digests that are taken for `a` and `b` differ where the texts do.  The
digests are truncated, so that this is no fact about all clusters. -/
structure Apart (a b : Cluster) : Prop where
  /-- The digests of the settings. -/
  settings : a.digest = b.digest → a.settingsText = b.settingsText
  /-- The digests that segments are cut with, where the names are long. -/
  names : a.IsLong → b.IsLong → cutSuffix a.segments = cutSuffix b.segments →
    a.fullName = b.fullName

/-- `LooksCut text` says that `text` looks like a segment that is cut: it has a dash in front of its
last six characters, and as many characters as are left of a segment. -/
def LooksCut (text : String) : Prop :=
  ∃ front suffix, text = front ++ "-" ++ suffix ∧ suffix.length = shortHashLength ∧
    front.length = nameLimit / 4 - shortHashLength - 1

/-- A text that looks like a segment that is cut is as long as a segment may be. -/
theorem LooksCut.length {text : String} (h : LooksCut text) : text.length = nameLimit / 4 := by
  obtain ⟨front, suffix, rfl, hsuffix, hfront⟩ := h
  rw [String.length_append, String.length_append, hsuffix, hfront]
  rfl

theorem looksCut_truncate {text : String} (c : Cluster) (h : nameLimit / 4 < text.length) :
    LooksCut (truncate (nameLimit / 4) text (cutSuffix c.segments)) := by
  have hfront : (firstChars (nameLimit / 4 - shortHashLength - 1) text).length
      = nameLimit / 4 - shortHashLength - 1 := by
    rw [length_firstChars]
    exact Nat.min_eq_left (by change 8 ≤ text.length; change 15 < text.length at h; omega)
  refine ⟨_, _, ?_, length_cutSuffix c.segments, hfront⟩
  rw [truncate_of_lt h (by rw [length_cutSuffix]; decide), length_cutSuffix]

/-- A number does not look like a segment that is cut, since it is far too short. -/
theorem not_looksCut_toString_int (n : Int) : ¬ LooksCut (toString n) := by
  rintro ⟨front, suffix, heq, -, hlength⟩
  have hdash : (toString n).toList[7 + 1]? = some '-' := by
    have hfront : front.toList.length = 8 := by rw [String.length_toList, hlength]; rfl
    rw [heq, String.toList_append, String.toList_append, List.append_assoc,
      List.getElem?_append_right (by omega), hfront]
    rfl
  exact getElem?_toString_int_ne n 7 hdash

/-- What two names show in the same place stands for the same segment, unless both names are
shortened and all their segments are the same.  A segment that is whole in one name cannot be a cut
one in the other, as it does not look cut. -/
theorem segment_eq_of_shown (apart : Apart a b) {s t shown : String} (hs : a.ShowsSegment s shown)
    (ht : b.ShowsSegment t shown) (hs' : ¬ LooksCut s) (ht' : ¬ LooksCut t) :
    s = t ∨ a.fullName = b.fullName := by
  -- of a segment that stands as it is and one that is cut, the first one would look cut
  cases hs with
  | whole =>
    cases ht with
    | whole => exact .inl rfl
    | cut isLong long => exact absurd (looksCut_truncate b long) hs'
  | cut isLong long =>
    generalize hshown : truncate (nameLimit / 4) s (cutSuffix a.segments) = shown at ht
    cases ht with
    | whole => exact absurd (hshown ▸ looksCut_truncate a long) ht'
    | cut isLong' long' =>
      exact .inr (apart.names isLong isLong'
        (cutSuffix_eq_of_truncate_eq (by decide) long long' hshown))

/-- The parts that two clusters with the same name show.  The slashes are found again, except for
those in the name of a service. -/
theorem shown_of_messageName_eq (h : a.messageName = b.messageName) :
    ∃ space name space' name' port, a.ShowsSegment a.backend.target.service.space space ∧
      a.ShowsSegment a.backend.target.service.name name ∧
      a.ShowsSegment (toString a.backend.target.portNumber) port ∧
      b.ShowsSegment b.backend.target.service.space space' ∧
      b.ShowsSegment b.backend.target.service.name name' ∧
      b.ShowsSegment (toString b.backend.target.portNumber) port ∧
      joinSegments [space, name] = joinSegments [space', name'] ∧ a.digest = b.digest := by
  obtain ⟨space, name, port, hspace, hname, hport, heq⟩ := a.messageName_shows
  obtain ⟨space', name', port', hspace', hname', hport', heq'⟩ := b.messageName_shows
  rw [heq, heq'] at h
  -- the digest and the port are the last parts, and there are no slashes in them
  obtain ⟨hservice, rfl, hdigest⟩ := joinSegments_four_inj (hport.free (free_portText a))
    (hport'.free (free_portText b)) a.free_digest b.free_digest h
  exact ⟨space, name, space', name', port, hspace, hname, hport, hspace', hname', hport', hservice,
    hdigest⟩

/-- What clusters have in common whose names are the same before they are shortened: `joinSegments`
of the service, the number of the port and the digest. -/
theorem fullName_inj (h : a.fullName = b.fullName) :
    joinSegments [a.backend.target.service.space, a.backend.target.service.name]
      = joinSegments [b.backend.target.service.space, b.backend.target.service.name] ∧
    a.backend.target.portNumber = b.backend.target.portNumber := by
  obtain ⟨hservice, hport, -⟩ := joinSegments_four_inj (free_portText a) (free_portText b)
    a.free_digest b.free_digest h
  exact ⟨hservice, toString_int_inj hport⟩

/-- Clusters with the same name have the same port number. -/
theorem portNumber_eq_of_messageName_eq (apart : Apart a b) (h : a.messageName = b.messageName) :
    a.backend.target.portNumber = b.backend.target.portNumber := by
  obtain ⟨_, _, _, _, port, -, -, hport, -, -, hport', -, -⟩ := shown_of_messageName_eq h
  rcases segment_eq_of_shown apart hport hport' (not_looksCut_toString_int _)
    (not_looksCut_toString_int _) with heq | hfull
  · exact toString_int_inj heq
  · exact (fullName_inj hfull).2

/-- Clusters with the same name have the same text of settings, by `Apart`. -/
theorem settingsText_eq_of_messageName_eq (apart : Apart a b)
    (h : a.messageName = b.messageName) : a.settingsText = b.settingsText := by
  obtain ⟨_, _, _, _, _, -, -, -, -, -, -, -, hdigest⟩ := shown_of_messageName_eq h
  exact apart.settings hdigest

/-! ### Services -/

/-- The identity of a service leaves no doubt in a name: there is no slash in its namespace, and it
does not look as if it was cut. -/
structure Identity.Tidy (i : Identity) : Prop where
  /-- There is no slash in the namespace. -/
  space : Free '/' i.space
  /-- The namespace does not look as if it was cut. -/
  wholeSpace : ¬ LooksCut i.space
  /-- The name does not look as if it was cut. -/
  wholeName : ¬ LooksCut i.name

/-- Clusters with the same name have the same service, if the identities of their services are
`Tidy`. -/
theorem service_eq_of_messageName_eq (apart : Apart a b) (h : a.messageName = b.messageName)
    (ha : a.backend.target.service.Tidy) (hb : b.backend.target.service.Tidy) :
    a.backend.target.service = b.backend.target.service := by
  have hservice : ∀ {i j : Identity}, i.space = j.space ∧ i.name = j.name → i = j := by
    rintro ⟨_, _⟩ ⟨_, _⟩ ⟨rfl, rfl⟩
    rfl
  have hfull : a.fullName = b.fullName → a.backend.target.service = b.backend.target.service :=
    fun hfull => hservice (joinSegments_two_inj ha.space hb.space (fullName_inj hfull).1)
  obtain ⟨space, name, space', name', _, hspace, hname, -, hspace', hname', -, hjoined, -⟩ :=
    shown_of_messageName_eq h
  -- both names show the same; it stands for the same unless both are cut, and then with one digest
  obtain ⟨rfl, rfl⟩ := joinSegments_two_inj (hspace.free ha.space) (hspace'.free hb.space) hjoined
  rcases segment_eq_of_shown apart hspace hspace' ha.wholeSpace hb.wholeSpace with hs | hsame
  · rcases segment_eq_of_shown apart hname hname' ha.wholeName hb.wholeName with hn | hsame
    · exact hservice ⟨hs, hn⟩
    · exact hfull hsame
  · exact hfull hsame

/-! ### Settings -/

/-- The numbers of a health check as the name of a cluster tells them.  They stand in front of the
free texts, so that they are told in any case. -/
def HealthCheck.numbers (h : HealthCheck) : Int × Int × Nat × Nat :=
  (max h.timeoutSeconds 0, max h.intervalSeconds 0, h.unhealthyThreshold, h.healthyThreshold)

/-- `SameSettings a b` is what clusters with the same name have in common in any case, whatever
stands in their free texts. -/
structure SameSettings (a b : Cluster) : Prop where
  /-- The port number. -/
  portNumber : a.backend.target.portNumber = b.backend.target.portNumber
  /-- The strategy. -/
  strategy : a.strategy = b.strategy
  /-- The protocol. -/
  protocol : a.backend.protocol = b.backend.protocol
  /-- Whether there is a health check, and its numbers. -/
  checks : a.healthCheck.map HealthCheck.numbers = b.healthCheck.map HealthCheck.numbers

theorem Strategy.text_injective {s t : Strategy} (h : s.text = t.text) : s = t := by
  cases s <;> cases t <;> first | rfl | exact absurd h (by decide)

theorem Protocol.text_injective {s t : Protocol} (h : s.text = t.text) : s = t := by
  cases s <;> cases t <;> first | rfl | exact absurd h (by decide)

namespace Cluster

/-- `c.strategyPart` is the part of the settings that tells the strategy. -/
def strategyPart (c : Cluster) : String := "lb=" ++ c.strategy.text

/-- `c.checkParts` are the parts for the health check, none without one. -/
def checkParts (c : Cluster) : List String := c.healthCheck.elim [] HealthCheck.nameParts

/-- `c.validationParts` are the parts for the verification of the service. -/
def validationParts (c : Cluster) : List String :=
  c.serverValidation.elim [] fun v => ["ca=" ++ v.ca.identity.text, "subject=" ++ v.subjectName]

/-- `c.certificateParts` is the part for the certificate that is shown to the service. -/
def certificateParts (c : Cluster) : List String :=
  c.clientCertificate.elim [] fun k => ["client=" ++ k.identity.text]

/-- `c.protocolPart` is the part that tells the protocol, at the end. -/
def protocolPart (c : Cluster) : String := "proto=" ++ c.backend.protocol.text

theorem nameParts_eq (c : Cluster) : c.nameParts =
    c.strategyPart :: (c.checkParts ++ (c.validationParts ++ (c.certificateParts ++
      [c.protocolPart]))) := by
  unfold nameParts checkParts validationParts certificateParts
  cases c.healthCheck <;> cases c.serverValidation <;> cases c.clientCertificate <;> rfl

theorem free_strategyPart (c : Cluster) : Free ';' c.strategyPart := by
  unfold strategyPart
  cases c.strategy <;> decide

theorem free_protocolPart (c : Cluster) : Free ';' c.protocolPart := by
  unfold protocolPart
  cases c.backend.protocol <;> decide

end Cluster

/-- The first character of some texts is the one of the first text. -/
theorem head?_intercalate {sep p : String} {ps : List String} {c : Char}
    (h : p.toList.head? = some c) : (sep.intercalate (p :: ps)).toList.head? = some c := by
  cases ps with
  | nil => simpa using h
  | cons q qs => simp [h]

/-- What is behind the strategy begins in the same way only if both clusters have a health check or
both have none. -/
theorem head?_checkParts_of_none {c : Cluster} (h : c.healthCheck = none) :
    (";".intercalate (c.checkParts ++ (c.validationParts ++ (c.certificateParts ++
      [c.protocolPart])))).toList.head? ≠ some 't' := by
  unfold Cluster.checkParts Cluster.validationParts Cluster.certificateParts
  rw [h]
  -- without a check the first part comes from the validation, the certificate or the protocol, and
  -- none of the three begins as a check's first part does
  cases c.serverValidation with
  | some v =>
    have hfirst : ("ca=" ++ v.ca.identity.text).toList.head? = some 'c' := by simp
    simp only [Option.elim_none, Option.elim_some, List.nil_append, List.cons_append]
    rw [head?_intercalate hfirst]
    decide
  | none =>
    cases c.clientCertificate with
    | some k =>
      have hfirst : ("client=" ++ k.identity.text).toList.head? = some 'c' := by simp
      simp only [Option.elim_none, Option.elim_some, List.nil_append, List.cons_append]
      rw [head?_intercalate hfirst]
      decide
    | none =>
      have hfirst : c.protocolPart.toList.head? = some 'p' := by simp [Cluster.protocolPart]
      simp only [Option.elim_none, List.nil_append]
      rw [head?_intercalate hfirst]
      decide

theorem free_toString_nat {c : Char} (hdigit : c.isDigit = false) (n : Nat) :
    Free c (toString n) := by
  intro hmem
  rw [Nat.toString_eq_repr] at hmem
  simp [isDigit_of_mem_repr hmem] at hdigit

/-- The numbers of a health check stand in front of its free texts.  They are read up to the next
semicolon, which `free_toString_nat` keeps out of a number. -/
theorem numbers_eq_of_intercalate_eq {h h' : HealthCheck} {rest rest' : List String}
    (heq : ";".intercalate (h.nameParts ++ rest) = ";".intercalate (h'.nameParts ++ rest')) :
    h.numbers = h'.numbers := by
  -- a label followed by a number holds no semicolon, so the parts can be split off one by one
  have hseconds : ∀ (label : String) (n : Int), Free ';' label →
      Free ';' (label ++ toString n ++ "s") := fun label n hlabel =>
    (hlabel.append (free_toString_int (by decide) (by decide) n)).append (by decide)
  have hcount : ∀ (label : String) (n : Nat), Free ';' label → Free ';' (label ++ toString n) :=
    fun label n hlabel => hlabel.append (free_toString_nat (by decide) n)
  obtain ⟨htimeout, heq⟩ := intercalate_cons_inj (hseconds "timeout=" _ (by decide))
    (hseconds "timeout=" _ (by decide)) (by simp) (by simp) heq
  obtain ⟨hinterval, heq⟩ := intercalate_cons_inj (hseconds "interval=" _ (by decide))
    (hseconds "interval=" _ (by decide)) (by simp) (by simp) heq
  obtain ⟨hunhealthy, heq⟩ := intercalate_cons_inj (hcount "unhealthy=" _ (by decide))
    (hcount "unhealthy=" _ (by decide)) (by simp) (by simp) heq
  obtain ⟨hhealthy, -⟩ := intercalate_cons_inj (hcount "healthy=" _ (by decide))
    (hcount "healthy=" _ (by decide)) (by simp) (by simp) heq
  have htimeout := toString_int_inj ((String.append_right_inj _).mp
    ((String.append_left_inj _).mp htimeout))
  have hinterval := toString_int_inj ((String.append_right_inj _).mp
    ((String.append_left_inj _).mp hinterval))
  have hunhealthy : h.unhealthyThreshold = h'.unhealthyThreshold :=
    repr_inj ((String.append_right_inj _).mp hunhealthy)
  have hhealthy : h.healthyThreshold = h'.healthyThreshold :=
    repr_inj ((String.append_right_inj _).mp hhealthy)
  unfold HealthCheck.numbers
  rw [htimeout, hinterval, hunhealthy, hhealthy]

/-- Clusters with the same name have `SameSettings`, up to the free texts. -/
theorem sameSettings_of_messageName_eq (apart : Apart a b) (h : a.messageName = b.messageName) :
    SameSettings a b := by
  have htext := settingsText_eq_of_messageName_eq apart h
  unfold Cluster.settingsText at htext
  rw [Cluster.nameParts_eq, Cluster.nameParts_eq] at htext
  constructor
  · exact portNumber_eq_of_messageName_eq apart h
  · obtain ⟨hstrategy, -⟩ := intercalate_cons_inj a.free_strategyPart b.free_strategyPart
      (by simp) (by simp) htext
    exact Strategy.text_injective ((String.append_right_inj _).mp hstrategy)
  · -- the protocol stands at the end, behind all free texts
    have hlast : ∀ c : Cluster, c.strategyPart :: (c.checkParts ++ (c.validationParts ++
        (c.certificateParts ++ [c.protocolPart]))) = (c.strategyPart :: (c.checkParts ++
          (c.validationParts ++ c.certificateParts))) ++ [c.protocolPart] := by
      intro c
      simp only [List.cons_append, List.append_assoc]
    rw [hlast, hlast] at htext
    obtain ⟨-, hprotocol⟩ := intercalate_concat_inj a.free_protocolPart b.free_protocolPart
      (by simp) (by simp) htext
    exact Protocol.text_injective ((String.append_right_inj _).mp hprotocol)
  · -- a health check shows in the first character behind the strategy, since no other part begins
    -- with the same one
    obtain ⟨-, htail⟩ := intercalate_cons_inj a.free_strategyPart b.free_strategyPart
      (by simp) (by simp) htext
    have hfirst : ∀ (c : Cluster) (h : HealthCheck), c.healthCheck = some h →
        (";".intercalate (c.checkParts ++ (c.validationParts ++ (c.certificateParts ++
          [c.protocolPart])))).toList.head? = some 't' := by
      intro c h hcheck
      have htimeout : ("timeout=" ++ toString (max h.timeoutSeconds 0) ++ "s").toList.head?
          = some 't' := by simp
      rw [Cluster.checkParts, hcheck]
      exact head?_intercalate htimeout
    cases ha : a.healthCheck with
    | none =>
      cases hb : b.healthCheck with
      | none => rfl
      | some h' => exact absurd (htail ▸ hfirst b h' hb) (head?_checkParts_of_none ha)
    | some h =>
      cases hb : b.healthCheck with
      | none => exact absurd (htail ▸ hfirst a h ha) (head?_checkParts_of_none hb)
      | some h' =>
        rw [Cluster.checkParts, ha, Cluster.checkParts, hb] at htail
        exact congrArg some (numbers_eq_of_intercalate_eq htail)

/-! ### Free texts -/

/-- `c.Tidy` says that the free texts of a cluster leave no doubt in its name: they do not contain
the characters that stand between parts, and its service does not look as if its name was
shortened. -/
structure Cluster.Tidy (c : Cluster) : Prop where
  /-- The service. -/
  service : c.backend.target.service.Tidy
  /-- The path and the host of the health check. -/
  check : ∀ h, c.healthCheck = some h → Free ';' h.path ∧ Free ';' (h.host.getD "")
  /-- The secret with the authorities, and the subject. -/
  validation : ∀ v, c.serverValidation = some v → Free '/' v.ca.identity.space ∧
    Free ';' v.ca.identity.text ∧ Free ';' v.subjectName
  /-- The secret with the certificate that is shown to the service. -/
  certificate : ∀ k, c.clientCertificate = some k → Free '/' k.identity.space ∧
    Free ';' k.identity.text

/-- There is no semicolon in the parts for the settings of a tidy cluster, so that they can be told
apart. -/
theorem Cluster.Tidy.free_nameParts {c : Cluster} (hc : c.Tidy) : ∀ part ∈ c.nameParts,
    Free ';' part := by
  intro part hpart
  rw [Cluster.nameParts_eq] at hpart
  simp only [List.mem_cons, List.mem_append, List.not_mem_nil, or_false] at hpart
  rcases hpart with rfl | hpart | hpart | hpart | rfl
  · exact c.free_strategyPart
  · unfold Cluster.checkParts at hpart
    cases hcheck : c.healthCheck with
    | none => simp [hcheck] at hpart
    | some h =>
      obtain ⟨hpath, hhost⟩ := hc.check h hcheck
      rw [hcheck] at hpart
      simp only [Option.elim_some, HealthCheck.nameParts, List.mem_cons, List.not_mem_nil,
        or_false] at hpart
      -- only the path and the host are free texts, and there tidiness is what helps
      rcases hpart with rfl | rfl | rfl | rfl | rfl | rfl
      · exact (Free.append (by decide) (free_toString_int (by decide) (by decide) _)).append
          (by decide)
      · exact (Free.append (by decide) (free_toString_int (by decide) (by decide) _)).append
          (by decide)
      · exact Free.append (by decide) (free_toString_nat (by decide) _)
      · exact Free.append (by decide) (free_toString_nat (by decide) _)
      · exact Free.append (by decide) hpath
      · exact Free.append (by decide) hhost
  · unfold Cluster.validationParts at hpart
    cases hvalidation : c.serverValidation with
    | none => simp [hvalidation] at hpart
    | some v =>
      obtain ⟨-, hca, hsubject⟩ := hc.validation v hvalidation
      rw [hvalidation] at hpart
      simp only [Option.elim_some, List.mem_cons, List.not_mem_nil, or_false] at hpart
      rcases hpart with rfl | rfl
      · exact Free.append (by decide) hca
      · exact Free.append (by decide) hsubject
  · unfold Cluster.certificateParts at hpart
    cases hcertificate : c.clientCertificate with
    | none => simp [hcertificate] at hpart
    | some k =>
      rw [hcertificate] at hpart
      simp only [Option.elim_some, List.mem_singleton] at hpart
      rw [hpart]
      exact Free.append (by decide) (hc.certificate k hcertificate).2
  · exact c.free_protocolPart

/-- The parts tell which settings there are, since no two choices of `checkParts`, `validationParts`
and `certificateParts` have as many parts. -/
theorem parts_eq_of_nameParts_eq (h : a.nameParts = b.nameParts) :
    a.checkParts = b.checkParts ∧ a.validationParts = b.validationParts ∧
      a.certificateParts = b.certificateParts := by
  have hcheck : ∀ c : Cluster, c.checkParts.length = 0 ∨ c.checkParts.length = 6 := by
    intro c
    unfold Cluster.checkParts
    cases c.healthCheck with
    | none => exact .inl rfl
    | some h => exact .inr rfl
  have hvalidation : ∀ c : Cluster, c.validationParts.length = 0 ∨ c.validationParts.length = 2 := by
    intro c
    unfold Cluster.validationParts
    cases c.serverValidation with
    | none => exact .inl rfl
    | some v => exact .inr rfl
  have hcertificate : ∀ c : Cluster, c.certificateParts.length ≤ 1 := by
    intro c
    unfold Cluster.certificateParts
    cases c.clientCertificate with
    | none => exact Nat.zero_le _
    | some k => exact Nat.le_refl _
  rw [Cluster.nameParts_eq, Cluster.nameParts_eq] at h
  -- the lengths decide how the list falls apart: a check takes six parts or none, a validation two
  -- or none
  obtain ⟨-, h⟩ := List.cons.inj h
  have hlength := congrArg List.length h
  simp only [List.length_append, List.length_singleton] at hlength
  have ha := hcheck a
  have hb := hcheck b
  have ha' := hvalidation a
  have hb' := hvalidation b
  have ha'' := hcertificate a
  have hb'' := hcertificate b
  obtain ⟨hchecks, h⟩ := List.append_inj h (by omega)
  obtain ⟨hvalidations, h⟩ := List.append_inj h (by omega)
  obtain ⟨hcertificates, -⟩ := List.append_inj h (by omega)
  exact ⟨hchecks, hvalidations, hcertificates⟩

/-- `SameTexts a b` is what tidy clusters with the same `settingsText` have in common besides
`SameSettings`. -/
structure SameTexts (a b : Cluster) : Prop where
  /-- The path of the health check. -/
  path : a.healthCheck.map (·.path) = b.healthCheck.map (·.path)
  /-- Its host. -/
  host : a.healthCheck.map (·.host.getD "") = b.healthCheck.map (·.host.getD "")
  /-- The secret with the authorities. -/
  ca : a.serverValidation.map (·.ca.identity.text) = b.serverValidation.map (·.ca.identity.text)
  /-- The subject. -/
  subject : a.serverValidation.map (·.subjectName) = b.serverValidation.map (·.subjectName)
  /-- The secret with the certificate that is shown to the service. -/
  certificate : a.clientCertificate.map (·.identity.text) = b.clientCertificate.map (·.identity.text)

/-- Optional values with the same `parts` are the same in what the parts tell, if a value never has
none. -/
theorem map_eq_of_elim_eq {α β : Type} {o o' : Option α} {parts : α → List String} {f : α → β}
    (hsome : ∀ x, parts x ≠ []) (hf : ∀ x y, parts x = parts y → f x = f y)
    (h : o.elim [] parts = o'.elim [] parts) : o.map f = o'.map f := by
  cases o with
  | none =>
    cases o' with
    | none => rfl
    | some y => exact absurd h.symm (hsome y)
  | some x =>
    cases o' with
    | none => exact absurd h (hsome x)
    | some y => exact congrArg some (hf x y h)

/-- The parts for a health check tell its path and its host. -/
theorem HealthCheck.texts_eq_of_nameParts_eq {h h' : HealthCheck}
    (heq : h.nameParts = h'.nameParts) :
    h.path = h'.path ∧ h.host.getD "" = h'.host.getD "" := by
  simp only [HealthCheck.nameParts, List.cons.injEq] at heq
  obtain ⟨-, -, -, -, hpath, hhost, -⟩ := heq
  exact ⟨(String.append_right_inj _).mp hpath, (String.append_right_inj _).mp hhost⟩

/-- The text of the settings of tidy clusters tells their free texts. -/
theorem sameTexts_of_settingsText_eq (ha : a.Tidy) (hb : b.Tidy)
    (h : a.settingsText = b.settingsText) : SameTexts a b := by
  -- no part of a tidy cluster holds the separator, so the joined text gives the parts back
  have hparts : a.nameParts = b.nameParts :=
    intercalate_inj ha.free_nameParts hb.free_nameParts (by simp [Cluster.nameParts_eq])
      (by simp [Cluster.nameParts_eq]) h
  obtain ⟨hcheck, hvalidation, hcertificate⟩ := parts_eq_of_nameParts_eq hparts
  constructor
  · refine map_eq_of_elim_eq (by simp [HealthCheck.nameParts]) (fun h h' heq => ?_) hcheck
    exact (HealthCheck.texts_eq_of_nameParts_eq heq).1
  · refine map_eq_of_elim_eq (by simp [HealthCheck.nameParts]) (fun h h' heq => ?_) hcheck
    exact (HealthCheck.texts_eq_of_nameParts_eq heq).2
  · refine map_eq_of_elim_eq (by simp) (fun v v' heq => ?_) hvalidation
    exact (String.append_right_inj _).mp (List.cons.inj heq).1
  · refine map_eq_of_elim_eq (by simp) (fun v v' heq => ?_) hvalidation
    exact (String.append_right_inj _).mp (List.cons.inj (List.cons.inj heq).2).1
  · refine map_eq_of_elim_eq (by simp) (fun k k' heq => ?_) hcertificate
    exact (String.append_right_inj _).mp (List.cons.inj heq).1

end GatewayCompiler
