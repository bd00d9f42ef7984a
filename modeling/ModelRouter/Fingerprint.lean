import ModelRouter.Base.Delimited
import ModelRouter.Numerals
import ModelRouter.Request

namespace ModelRouter.Fingerprint

open Base.Refusal Base.Delimited Bytes Ids Capability Evidence Catalog Limits Numerals Request

variable {r r' : RouteRequirements}

section

def fieldEnd : UInt8 := byteOf ';'

def entryEnd : UInt8 := byteOf ','

def slash : UInt8 := byteOf '/'

def openingLabels : List Text :=
  [";cap=", ";pref=", ";minstate=", ";ctx=", ";out=", ";inmod=", ";outmod=", ";flags=", ";quality=",
    ";ma=", ";md=", ";fa=", ";fd=", ";pa=", ";pd=", ";ba=", ";bd=", ";place=", ";loc=", ";denyloc=",
    ";trust="]

def openingValues (r : RouteRequirements) : List Text :=
  [capabilityList r.requiredCapabilities, keyList r.preferredCapabilities,
    r.minimumCapabilityEvidence.name, decimal r.minContextTokens.toNat,
    decimal r.maxOutputTokens.toNat, decimal r.requiredInputModalities.bits.toNat,
    decimal r.requiredOutputModalities.bits.toNat,
    boolDigit r.requireStructuredOutput ++ (boolDigit r.requireJsonSchema ++
      (boolDigit r.requireToolCalling ++ (boolDigit r.requireStreaming ++
        (boolDigit r.requireLogprobs ++ boolDigit r.requireDeterministicSeed)))),
    decimal r.qualityFloor.toNat, idList r.modelAllowlist, idList r.modelDenylist,
    idList r.familyAllowlist, idList r.familyDenylist, idList r.providerAllowlist,
    idList r.providerDenylist, idList r.backendAllowlist, idList r.backendDenylist,
    boolDigit r.localOnly ++ (boolDigit r.offlineOnly ++ boolDigit r.remoteAllowed),
    keyList r.requiredLocalities, keyList r.deniedLocalities, r.minimumTrust.name]

def middleLabels : List Text :=
  [";", ";lat=", ";deadline=", ";slo=", ";live="]

def middleValues (r : RouteRequirements) : List Text :=
  [signedDecimal r.maximumCost.micros.toInt, decimal r.maxLatencyMicros.toNat,
    decimal r.deadlineMicros.toNat, boolDigit r.requireSlo,
    boolDigit r.requireAvailable ++ (boolDigit r.requireHealthy ++ (boolDigit r.requireReady ++
      (boolDigit r.requireResident ++ (boolDigit r.requireCapacity ++
        (boolDigit r.requireReservation ++ (boolDigit r.requireKnownLatency ++
          boolDigit r.requireKnownCompatibility))))))]

def closingLabels : List Text :=
  [";aff=", ";stick=", ";fb="]

def retryDigits (r : RouteRequirements) : Text :=
  decimal r.retryPolicy.maxAttempts.toNat ++ decimal r.retryPolicy.maxFallbacks.toNat

def closingWith (r : RouteRequirements) (retries : Text) : List Text :=
  [decimal r.affinityModel.value.toNat ++ slash :: (decimal r.affinityProvider.value.toNat ++
      slash :: decimal r.affinityBackend.value.toNat),
    boolDigit r.stickiness.preferSameModelFamily ++ (boolDigit r.stickiness.preferSameProvider ++
      (boolDigit r.stickiness.preferSameBackend ++ (boolDigit r.stickiness.preferContextLocality ++
        (decimal r.stickiness.stickyFamily.value.toNat ++
          slash :: (decimal r.stickiness.stickyProvider.value.toNat ++
            slash :: decimal r.stickiness.stickyBackend.value.toNat))))),
    boolDigit r.allowFallbacks ++ (r.fallbackPolicy.name ++ (boolDigit r.retryPolicy.allowRetry ++
      (boolDigit r.retryPolicy.allowReroute ++ (boolDigit r.retryPolicy.allowModelSwitch ++
        (boolDigit r.retryPolicy.allowProviderSwitch ++ retries)))))]

def closingValues (r : RouteRequirements) : List Text :=
  closingWith r (retryDigits r)

def unitText (r : RouteRequirements) : Text :=
  r.maximumCost.unit.currency ++ slash :: r.maximumCost.unit.basis

def figures (r : RouteRequirements) : Text :=
  (labelled middleLabels (middleValues r)).tail ++ text ";proto="

/-- The part of the text that holds every free-form name. -/
def stretch (r : RouteRequirements) : Text :=
  unitText r ++ slash :: (figures r ++ r.requiredProtocol)

theorem canonicalText_eq (r : RouteRequirements) :
    fieldEnd :: r.canonicalText = labelled openingLabels (openingValues r) ++ (text ";cost=" ++
      (boolDigit r.requireKnownCost ++ (boolDigit r.enforceCostCeiling ++ (stretch r ++
        slash :: (decimal r.requiredProtocolVersion.toNat ++
          labelled closingLabels (closingValues r)))))) := by
  have hslash : text "/" = [slash] := by decide
  have hfirst : text ";cap=" = fieldEnd :: text "cap=" := by decide
  have hfigures : text ";" = [fieldEnd] := by decide
  dsimp only [RouteRequirements.canonicalText, stretch, figures, unitText, retryDigits, labelled,
    openingLabels, openingValues, middleLabels, middleValues, closingLabels, closingValues,
    closingWith, List.zipWith_cons_cons, List.zipWith_nil_left, List.flatten_cons, List.flatten_nil]
  simp only [hslash, hfirst, hfigures, List.append_assoc, List.cons_append, List.nil_append,
    List.append_nil, List.tail_cons]

end

/-- What validation says of the bytes of the keys. -/
structure Written (r : RouteRequirements) : Prop where
  required : ∀ required ∈ r.requiredCapabilities, ∀ b ∈ required.key, isKeyCharacter b = true
  preferred : ∀ key ∈ r.preferredCapabilities, ∀ b ∈ key, isKeyCharacter b = true
  placed : ∀ key ∈ r.requiredLocalities, ∀ b ∈ key, isLocalityCharacter b = true
  denied : ∀ key ∈ r.deniedLocalities, ∀ b ∈ key, isLocalityCharacter b = true

theorem scanSegments_admits {admissible : UInt8 → Bool} {invalid empty value : Text} {previous : Bool}
    (h : scanSegments admissible invalid empty previous value = none) :
    ∀ b ∈ value, admissible b = true := by
  induction value generalizing previous with
  | nil =>
      intro b hb
      cases hb
  | cons b value ih =>
      rw [scanSegments] at h
      by_cases hadmits : admissible b = true
      · rw [List.forall_mem_cons]
        refine ⟨hadmits, ?_⟩
        rw [hadmits] at h
        by_cases hslash : (b == byteOf '/') = true
        · cases previous with
          | true => simp [hslash] at h
          | false => exact ih (by simpa [hslash] using h)
        · exact ih (by simpa [hslash] using h)
      · simp [hadmits] at h

theorem prefixed_eq_none {label : Text} {error : Option Text} :
    prefixed label error = none ↔ error = none :=
  Option.map_eq_none_iff

theorem capabilityKey_admits {key : Text} (h : CapabilityKey.validate key = none) :
    ∀ b ∈ key, isKeyCharacter b = true := by
  simp only [CapabilityKey.validate, chain_eq_none] at h
  exact scanSegments_admits h.2.2.2.1

theorem localityKey_admits {key : Text} (h : LocalityKey.validate key = none) :
    ∀ b ∈ key, isLocalityCharacter b = true := by
  simp only [LocalityKey.validate, chain_eq_none] at h
  exact scanSegments_admits h.2.2.2

theorem written_of_valid {limits : ResourceLimits} (h : r.validate limits = none) : Written r := by
  simp only [RouteRequirements.validate, chain_eq_none, List.findSome?_eq_none_iff,
    prefixed_eq_none, RouteRequirements.checkRequiredCapability] at h
  obtain ⟨-, -, -, -, hrequired, hpreferred, -, -, -, -, -, -, -, -, -, -, -, -, -, -, -, -, hplaced,
    hdenied⟩ := h
  exact
    { required := fun required hmem => capabilityKey_admits (hrequired required hmem).1
      preferred := fun key hmem => capabilityKey_admits (hpreferred key hmem)
      placed := fun key hmem => localityKey_admits (hplaced key hmem)
      denied := fun key hmem => localityKey_admits (hdenied key hmem) }

section

variable {t : Tag} {c : UInt8}

theorem idList_eq (ids : List (EntityId t)) :
    idList ids = delimited entryEnd (fun id => decimal id.value.toNat) ids := by
  have hcomma : text "," = [entryEnd] := by decide
  simp only [idList, delimited, hcomma]

theorem keyList_eq (keys : List Text) : keyList keys = delimited entryEnd id keys := by
  have hcomma : text "," = [entryEnd] := by decide
  simp only [keyList, delimited, hcomma, id]

def entry (required : CapabilityRequirement) : Text :=
  required.key ++ byteOf '@' :: required.minimumState.name

theorem capabilityList_eq (requirements : List CapabilityRequirement) :
    capabilityList requirements = delimited entryEnd entry requirements := by
  have hcomma : text "," = [entryEnd] := by decide
  have hat : text "@" = [byteOf '@'] := by decide
  simp only [capabilityList, delimited, entry, hcomma, hat, List.append_assoc, List.singleton_append]

def isNameCharacter (b : UInt8) : Bool :=
  (byteOf 'A' ≤ b && b ≤ byteOf 'Z') || b == byteOf '_'

theorem state_name (s : CapabilityState) : ∀ b ∈ s.name, isNameCharacter b = true := by
  rw [← List.all_eq_true]
  cases s <;> decide

theorem trust_name (d : TrustDomain) : ∀ b ∈ d.name, isNameCharacter b = true := by
  rw [← List.all_eq_true]
  cases d <;> decide

theorem fallback_name (p : FallbackPolicy) : ∀ b ∈ p.name, isNameCharacter b = true := by
  rw [← List.all_eq_true]
  cases p <;> decide

theorem not_mem_of_admits {admissible : UInt8 → Bool} {v : Text}
    (hv : ∀ b ∈ v, admissible b = true) (hc : admissible c = false) : c ∉ v :=
  fun hmem => absurd (hv c hmem) (by rw [hc]; decide)

theorem state_name_injective {s s' : CapabilityState} (h : s.name = s'.name) : s = s' := by
  cases s <;> cases s' <;> first | rfl | exact absurd h (by decide)

theorem trust_name_injective {d d' : TrustDomain} (h : d.name = d'.name) : d = d' := by
  cases d <;> cases d' <;> first | rfl | exact absurd h (by decide)

theorem fallback_name_split {p p' : FallbackPolicy} {x y : Text} (h : p.name ++ x = p'.name ++ y) :
    p = p' ∧ x = y := by
  have hfirst (q : FallbackPolicy) (z : Text) : (q.name ++ z).head? = q.name.head? := by
    cases q <;> rfl
  have hsame : p.name.head? = p'.name.head? := by rw [← hfirst p x, h, hfirst]
  obtain rfl : p = p' := by
    cases p <;> cases p' <;> first | rfl | exact absurd hsame (by decide)
  exact ⟨rfl, List.append_cancel_left h⟩

theorem id_of_decimal {a b : EntityId t} (h : decimal a.value.toNat = decimal b.value.toNat) :
    a = b := by
  have hvalue : a.value = b.value := UInt64.toNat_inj.mp (decimal_injective h)
  cases a
  cases b
  exact congrArg EntityId.mk hvalue

theorem idList_injective {ids ids' : List (EntityId t)} (h : idList ids = idList ids') : ids = ids' := by
  have hclean (id : EntityId t) : entryEnd ∉ decimal id.value.toNat :=
    not_mem_decimal (by decide) _
  rw [idList_eq, idList_eq] at h
  exact delimited_injective (fun id _ => hclean id) (fun id _ => hclean id)
    (fun _ _ _ _ => id_of_decimal) h

theorem keyList_injective {admissible : UInt8 → Bool} {keys keys' : List Text}
    (hcomma : admissible entryEnd = false) (hkeys : ∀ key ∈ keys, ∀ b ∈ key, admissible b = true)
    (hkeys' : ∀ key ∈ keys', ∀ b ∈ key, admissible b = true) (h : keyList keys = keyList keys') :
    keys = keys' := by
  rw [keyList_eq, keyList_eq] at h
  exact delimited_injective (fun key hmem => not_mem_of_admits (hkeys key hmem) hcomma)
    (fun key hmem => not_mem_of_admits (hkeys' key hmem) hcomma) (fun _ _ _ _ => id) h

theorem not_mem_entry {required : CapabilityRequirement} (hc : c ≠ byteOf '@')
    (hname : isNameCharacter c = false) (hkey : isKeyCharacter c = false)
    (h : ∀ b ∈ required.key, isKeyCharacter b = true) : c ∉ entry required := by
  rw [entry, List.mem_append, List.mem_cons]
  rintro (hmem | rfl | hmem)
  · exact not_mem_of_admits h hkey hmem
  · exact hc rfl
  · exact not_mem_of_admits (state_name _) hname hmem

theorem entry_injective {a b : CapabilityRequirement} (ha : ∀ c ∈ a.key, isKeyCharacter c = true)
    (hb : ∀ c ∈ b.key, isKeyCharacter c = true) (h : entry a = entry b) : a = b := by
  obtain ⟨hkey, hname⟩ := split_first (not_mem_of_admits ha (by decide))
    (not_mem_of_admits hb (by decide)) h
  have hstate := state_name_injective hname
  cases a
  cases b
  dsimp only at hkey hstate
  rw [hkey, hstate]

theorem capabilityList_injective (hr : Written r) (hr' : Written r')
    (h : capabilityList r.requiredCapabilities = capabilityList r'.requiredCapabilities) :
    r.requiredCapabilities = r'.requiredCapabilities := by
  rw [capabilityList_eq, capabilityList_eq] at h
  have hclean {s : RouteRequirements} (hs : Written s) :
      ∀ required ∈ s.requiredCapabilities, entryEnd ∉ entry required :=
    fun required hmem => not_mem_entry (by decide) (by decide) (by decide) (hs.required required hmem)
  exact delimited_injective (hclean hr) (hclean hr')
    (fun a ha b hb => entry_injective (hr.required a ha) (hr'.required b hb)) h

end

section

theorem fieldEnd_not_mem_idList {t : Tag} (ids : List (EntityId t)) : fieldEnd ∉ idList ids := by
  rw [idList_eq]
  exact not_mem_delimited (by decide) fun id _ => not_mem_decimal (by decide) _

theorem fieldEnd_not_mem_keyList {admissible : UInt8 → Bool} {keys : List Text}
    (hend : admissible fieldEnd = false) (h : ∀ key ∈ keys, ∀ b ∈ key, admissible b = true) :
    fieldEnd ∉ keyList keys := by
  rw [keyList_eq]
  exact not_mem_delimited (by decide) fun key hmem => not_mem_of_admits (h key hmem) hend

theorem fieldEnd_not_mem_capabilityList (hr : Written r) :
    fieldEnd ∉ capabilityList r.requiredCapabilities := by
  rw [capabilityList_eq]
  exact not_mem_delimited (by decide) fun required hmem =>
    not_mem_entry (by decide) (by decide) (by decide) (hr.required required hmem)

theorem openingValues_clean (hr : Written r) : ∀ v ∈ openingValues r, fieldEnd ∉ v := by
  have hdigit : ¬IsDigit fieldEnd := by decide
  have hstate := not_mem_of_admits (c := fieldEnd) (state_name r.minimumCapabilityEvidence) (by decide)
  have htrust := not_mem_of_admits (c := fieldEnd) (trust_name r.minimumTrust) (by decide)
  simp only [openingValues, List.forall_mem_cons, List.mem_append, not_or,
    fieldEnd_not_mem_capabilityList hr, fieldEnd_not_mem_keyList (by decide) hr.preferred,
    fieldEnd_not_mem_keyList (by decide) hr.placed, fieldEnd_not_mem_keyList (by decide) hr.denied,
    fieldEnd_not_mem_idList, not_mem_decimal hdigit, not_mem_boolDigit hdigit, hstate, htrust,
    not_false_eq_true, and_self, List.not_mem_nil, false_imp_iff, implies_true]

theorem middleValues_clean {c : UInt8} (hsign : c ≠ 45) (hdigit : ¬IsDigit c) (r : RouteRequirements) :
    ∀ v ∈ middleValues r, c ∉ v := by
  simp only [middleValues, List.forall_mem_cons, List.mem_append, not_or,
    not_mem_decimal hdigit, not_mem_boolDigit hdigit, not_mem_signedDecimal hsign hdigit,
    not_false_eq_true, and_self, List.not_mem_nil, false_imp_iff, implies_true]

theorem closingValues_clean (r : RouteRequirements) : ∀ v ∈ closingValues r, fieldEnd ∉ v := by
  have hdigit : ¬IsDigit fieldEnd := by decide
  have hslash : fieldEnd ≠ slash := by decide
  have hpolicy := not_mem_of_admits (c := fieldEnd) (fallback_name r.fallbackPolicy) (by decide)
  simp only [closingValues, closingWith, retryDigits, List.forall_mem_cons]
  simp only [List.mem_append, List.mem_cons, not_or, not_mem_decimal hdigit, not_mem_boolDigit hdigit,
    hslash, hpolicy, not_false_eq_true, and_self, List.not_mem_nil, false_imp_iff, implies_true]

end

/-- The requirements without what stands in the stretch of free-form names and without the retry
counts. -/
def blank (r : RouteRequirements) : RouteRequirements :=
  { r with
    maximumCost := {}
    maxLatencyMicros := 0
    deadlineMicros := 0
    requireSlo := false
    requireAvailable := false
    requireHealthy := false
    requireReady := false
    requireResident := false
    requireCapacity := false
    requireReservation := false
    requireKnownLatency := false
    requireKnownCompatibility := false
    requiredProtocol := []
    retryPolicy := { r.retryPolicy with maxAttempts := 0, maxFallbacks := 0 } }

def unnamed (r : RouteRequirements) : RouteRequirements :=
  { r with
    maximumCost := { r.maximumCost with unit := {} }
    retryPolicy := { r.retryPolicy with maxAttempts := 0, maxFallbacks := 0 } }

theorem decimal32 {n m : UInt32} (h : decimal n.toNat = decimal m.toNat) : n = m :=
  UInt32.toNat_inj.mp (decimal_injective h)

theorem slash_split {n m : UInt64} {x y : Text}
    (h : decimal n.toNat ++ slash :: x = decimal m.toNat ++ slash :: y) :
    decimal n.toNat = decimal m.toNat ∧ x = y :=
  split_first (not_mem_decimal (by decide) _) (not_mem_decimal (by decide) _) h

theorem stickiness_eq {s s' : Stickiness}
    (h : boolDigit s.preferSameModelFamily ++ (boolDigit s.preferSameProvider ++
        (boolDigit s.preferSameBackend ++ (boolDigit s.preferContextLocality ++
          (decimal s.stickyFamily.value.toNat ++ slash :: (decimal s.stickyProvider.value.toNat ++
            slash :: decimal s.stickyBackend.value.toNat))))) =
      boolDigit s'.preferSameModelFamily ++ (boolDigit s'.preferSameProvider ++
        (boolDigit s'.preferSameBackend ++ (boolDigit s'.preferContextLocality ++
          (decimal s'.stickyFamily.value.toNat ++ slash :: (decimal s'.stickyProvider.value.toNat ++
            slash :: decimal s'.stickyBackend.value.toNat)))))) :
    s = s' := by
  obtain ⟨hfamily, h⟩ := boolDigit_split h
  obtain ⟨hprovider, h⟩ := boolDigit_split h
  obtain ⟨hbackend, h⟩ := boolDigit_split h
  obtain ⟨hlocality, h⟩ := boolDigit_split h
  obtain ⟨hstickyFamily, h⟩ := slash_split h
  obtain ⟨hstickyProvider, h⟩ := slash_split h
  have hfamilyId := id_of_decimal hstickyFamily
  have hproviderId := id_of_decimal hstickyProvider
  have hbackendId := id_of_decimal h
  cases s
  cases s'
  dsimp only at hfamily hprovider hbackend hlocality hfamilyId hproviderId hbackendId
  subst hfamily hprovider hbackend hlocality hfamilyId hproviderId hbackendId
  rfl

theorem blank_eq (hr : Written r) (hr' : Written r') (hopening : openingValues r = openingValues r')
    (hcost : r.requireKnownCost = r'.requireKnownCost)
    (hceiling : r.enforceCostCeiling = r'.enforceCostCeiling)
    (hversion : r.requiredProtocolVersion = r'.requiredProtocolVersion)
    (hclosing : closingValues r = closingValues r') :
    blank r = blank r' ∧ retryDigits r = retryDigits r' := by
  simp only [openingValues, List.cons.injEq, and_true] at hopening
  obtain ⟨hrequired, hpreferred, hminimum, hcontext, houtput, hinputs, houtputs, hflags, hquality,
    hma, hmd, hfa, hfd, hpa, hpd, hba, hbd, hplace, hloc, hdenyloc, htrust⟩ := hopening
  obtain ⟨hstructured, hflags⟩ := boolDigit_split hflags
  obtain ⟨hschema, hflags⟩ := boolDigit_split hflags
  obtain ⟨htools, hflags⟩ := boolDigit_split hflags
  obtain ⟨hstreaming, hflags⟩ := boolDigit_split hflags
  obtain ⟨hlogprobs, hflags⟩ := boolDigit_split hflags
  obtain ⟨hlocal, hplace⟩ := boolDigit_split hplace
  obtain ⟨hoffline, hplace⟩ := boolDigit_split hplace
  simp only [closingValues, closingWith, List.cons.injEq, and_true] at hclosing
  obtain ⟨haffinity, hstick, hfallback⟩ := hclosing
  obtain ⟨haffinityModel, haffinity⟩ := slash_split haffinity
  obtain ⟨haffinityProvider, haffinity⟩ := slash_split haffinity
  obtain ⟨hallow, hfallback⟩ := boolDigit_split hfallback
  obtain ⟨hpolicy, hfallback⟩ := fallback_name_split hfallback
  obtain ⟨hretry, hfallback⟩ := boolDigit_split hfallback
  obtain ⟨hreroute, hfallback⟩ := boolDigit_split hfallback
  obtain ⟨hmodel, hfallback⟩ := boolDigit_split hfallback
  obtain ⟨hprovider, hfallback⟩ := boolDigit_split hfallback
  refine ⟨?_, hfallback⟩
  have hinputs : r.requiredInputModalities = r'.requiredInputModalities := by
    cases hm : r.requiredInputModalities
    cases hm' : r'.requiredInputModalities
    rw [hm, hm'] at hinputs
    exact congrArg ModalitySet.mk (decimal32 hinputs)
  have houtputs : r.requiredOutputModalities = r'.requiredOutputModalities := by
    cases hm : r.requiredOutputModalities
    cases hm' : r'.requiredOutputModalities
    rw [hm, hm'] at houtputs
    exact congrArg ModalitySet.mk (decimal32 houtputs)
  simp only [blank, capabilityList_injective hr hr' hrequired,
    keyList_injective (by decide) hr.preferred hr'.preferred hpreferred,
    state_name_injective hminimum, decimal32 hcontext, decimal32 houtput, hinputs, houtputs,
    hstructured, hschema, htools, hstreaming, hlogprobs, boolDigit_injective hflags,
    decimal32 hquality, idList_injective hma, idList_injective hmd, idList_injective hfa,
    idList_injective hfd, idList_injective hpa, idList_injective hpd, idList_injective hba,
    idList_injective hbd, hlocal, hoffline, boolDigit_injective hplace,
    keyList_injective (by decide) hr.placed hr'.placed hloc,
    keyList_injective (by decide) hr.denied hr'.denied hdenyloc, trust_name_injective htrust,
    hcost, hceiling, hversion, id_of_decimal haffinityModel, id_of_decimal haffinityProvider,
    id_of_decimal haffinity, stickiness_eq hstick, hallow, hpolicy, hretry, hreroute, hmodel,
    hprovider]

/-- The two differ in the cut of the cost unit's text and in the retry counts at most. -/
def Recut (r r' : RouteRequirements) : Prop :=
  unnamed r = unnamed r' ∧ unitText r = unitText r'

/-- The protocol name of the first holds a slash and then the cost figures and protocol of the
second, and the cost unit of the second ends in the cost figures of the first. -/
def Engulfs (r r' : RouteRequirements) : Prop :=
  blank r = blank r' ∧ ∃ between,
    r.requiredProtocol = between ++ slash :: (figures r' ++ r'.requiredProtocol) ∧
      unitText r' = unitText r ++ slash :: (figures r ++ between)

/-- Two requirements whose retry counts run together to the same digits, and whose free-form names
read as one another's fields where they differ at all. -/
def Mistakable (r r' : RouteRequirements) : Prop :=
  r ≠ r' ∧ retryDigits r = retryDigits r' ∧ (Recut r r' ∨ Engulfs r r' ∨ Engulfs r' r)

theorem slash_not_mem_figures (r : RouteRequirements) : slash ∉ figures r := by
  have hlabelled : slash ∉ labelled middleLabels (middleValues r) :=
    not_mem_labelled (by decide) (middleValues_clean (by decide) (by decide) r)
  rw [figures, List.mem_append]
  rintro (hmem | hmem)
  · exact hlabelled (List.mem_of_mem_tail hmem)
  · exact absurd hmem (by decide)

theorem figures_eq (r : RouteRequirements) (x : Text) :
    fieldEnd :: (figures r ++ x) =
      labelled middleLabels (middleValues r) ++ (text ";proto=" ++ x) := by
  have hfigures : text ";" = [fieldEnd] := by decide
  simp only [figures, labelled, middleLabels, middleValues, hfigures, List.zipWith_cons_cons,
    List.flatten_cons, List.cons_append, List.nil_append, List.tail_cons, List.append_assoc]

theorem head?_label {label x : Text} (h : label.head? = some fieldEnd) :
    (label ++ x).head? = some fieldEnd := by
  rw [List.head?_append, h, Option.some_or]

theorem figures_split (h : figures r ++ r.requiredProtocol = figures r' ++ r'.requiredProtocol) :
    middleValues r = middleValues r' ∧ r.requiredProtocol = r'.requiredProtocol := by
  have hhead (x : Text) : (text ";proto=" ++ x).head? = some fieldEnd := head?_label (by decide)
  have hwritten := congrArg (fieldEnd :: ·) h
  rw [figures_eq, figures_eq] at hwritten
  have hclean := middleValues_clean (c := fieldEnd) (by decide) (by decide)
  have hlabels : ∀ label ∈ middleLabels, label.head? = some fieldEnd := by decide
  have hlength (s : RouteRequirements) : (middleValues s).length = middleLabels.length := rfl
  obtain ⟨hvalues, hproto⟩ := labelled_split hlabels (hlength r) (hlength r') (hclean r) (hclean r') (hhead _)
    (hhead _) hwritten
  exact ⟨hvalues, List.append_cancel_left hproto⟩

theorem unnamed_eq (hblank : blank r = blank r') (hmiddle : middleValues r = middleValues r')
    (hprotocol : r.requiredProtocol = r'.requiredProtocol) : unnamed r = unnamed r' := by
  simp only [middleValues, List.cons.injEq, and_true] at hmiddle
  obtain ⟨hmicros, hlatency, hdeadline, hslo, hlive⟩ := hmiddle
  obtain ⟨havailable, hlive⟩ := boolDigit_split hlive
  obtain ⟨hhealthy, hlive⟩ := boolDigit_split hlive
  obtain ⟨hready, hlive⟩ := boolDigit_split hlive
  obtain ⟨hresident, hlive⟩ := boolDigit_split hlive
  obtain ⟨hcapacity, hlive⟩ := boolDigit_split hlive
  obtain ⟨hreservation, hlive⟩ := boolDigit_split hlive
  obtain ⟨hlatencyKnown, hlive⟩ := boolDigit_split hlive
  have hunnamed (s : RouteRequirements) : unnamed s =
      { blank s with
        maximumCost := { micros := s.maximumCost.micros }
        maxLatencyMicros := s.maxLatencyMicros
        deadlineMicros := s.deadlineMicros
        requireSlo := s.requireSlo
        requireAvailable := s.requireAvailable
        requireHealthy := s.requireHealthy
        requireReady := s.requireReady
        requireResident := s.requireResident
        requireCapacity := s.requireCapacity
        requireReservation := s.requireReservation
        requireKnownLatency := s.requireKnownLatency
        requireKnownCompatibility := s.requireKnownCompatibility
        requiredProtocol := s.requiredProtocol } := rfl
  rw [hunnamed, hunnamed r', hblank, Int64.toInt_inj.mp (signedDecimal_injective hmicros),
    decimal32 hlatency, decimal32 hdeadline, boolDigit_injective hslo, havailable, hhealthy, hready,
    hresident, hcapacity, hreservation, hlatencyKnown, boolDigit_injective hlive, hprotocol]

theorem engulfs_or_recut {rest : Text} (hblank : blank r = blank r')
    (hunit : unitText r' = unitText r ++ rest)
    (h : slash :: (figures r ++ r.requiredProtocol) =
      rest ++ slash :: (figures r' ++ r'.requiredProtocol)) : Recut r r' ∨ Engulfs r r' := by
  cases rest with
  | nil =>
      obtain ⟨hmiddle, hprotocol⟩ := figures_split (List.cons.inj h).2
      exact .inl ⟨unnamed_eq hblank hmiddle hprotocol, (hunit.trans (List.append_nil _)).symm⟩
  | cons c rest =>
      obtain ⟨rfl, htail⟩ := List.cons.inj h
      obtain ⟨between, rfl, hprotocol⟩ := delimiter_after (slash_not_mem_figures r) htail
      exact .inr ⟨hblank, between, hprotocol, hunit⟩

theorem stretch_cases (hblank : blank r = blank r') (h : stretch r = stretch r') :
    Recut r r' ∨ Engulfs r r' ∨ Engulfs r' r := by
  rcases List.append_eq_append_iff.mp h with ⟨rest, hunit, htail⟩ | ⟨rest, hunit, htail⟩
  · rcases engulfs_or_recut hblank hunit htail with hrecut | hengulfs
    · exact .inl hrecut
    · exact .inr (.inl hengulfs)
  · rcases engulfs_or_recut hblank.symm hunit htail with hrecut | hengulfs
    · exact .inl ⟨hrecut.1.symm, hrecut.2.symm⟩
    · exact .inr (.inr hengulfs)

theorem Engulfs.stretch_eq (h : Engulfs r r') : stretch r = stretch r' := by
  obtain ⟨-, between, hprotocol, hunit⟩ := h
  rw [stretch, hprotocol, stretch, hunit]
  simp only [List.append_assoc, List.cons_append]

theorem Recut.stretch_eq (h : Recut r r') : stretch r = stretch r' := by
  have hfigures (s : RouteRequirements) : figures s = figures (unnamed s) := rfl
  have hprotocol (s : RouteRequirements) : s.requiredProtocol = (unnamed s).requiredProtocol := rfl
  rw [stretch, stretch, hfigures r, hfigures r', hprotocol r, hprotocol r', h.1, h.2]

theorem Recut.blank_eq (h : Recut r r') : blank r = blank r' := by
  have hblank (s : RouteRequirements) : blank s = blank (unnamed s) := rfl
  rw [hblank r, hblank r', h.1]

theorem canonicalText_congr (hblank : blank r = blank r') (hstretch : stretch r = stretch r')
    (hretries : retryDigits r = retryDigits r') : r.canonicalText = r'.canonicalText := by
  have hopening (s : RouteRequirements) : openingValues s = openingValues (blank s) := rfl
  have hclosing (s : RouteRequirements) : closingValues s = closingWith (blank s) (retryDigits s) := rfl
  have hknown (s : RouteRequirements) : s.requireKnownCost = (blank s).requireKnownCost := rfl
  have hceiling (s : RouteRequirements) : s.enforceCostCeiling = (blank s).enforceCostCeiling := rfl
  have hversion (s : RouteRequirements) :
      s.requiredProtocolVersion = (blank s).requiredProtocolVersion := rfl
  have hwritten : fieldEnd :: r.canonicalText = fieldEnd :: r'.canonicalText := by
    rw [canonicalText_eq, canonicalText_eq, hopening r, hopening r', hclosing r, hclosing r',
      hknown r, hknown r', hceiling r, hceiling r', hversion r, hversion r', hblank, hstretch,
      hretries]
  exact (List.cons.inj hwritten).2

theorem canonicalText_eq_iff (hr : Written r) (hr' : Written r') :
    r.canonicalText = r'.canonicalText ↔
      retryDigits r = retryDigits r' ∧ (Recut r r' ∨ Engulfs r r' ∨ Engulfs r' r) := by
  constructor
  · intro h
    have hcost (x : Text) : (text ";cost=" ++ x).head? = some fieldEnd := head?_label (by decide)
    have hwritten := congrArg (fieldEnd :: ·) h
    rw [canonicalText_eq, canonicalText_eq] at hwritten
    have hlabels : ∀ label ∈ openingLabels, label.head? = some fieldEnd := by decide
    have hlast : ∀ label ∈ closingLabels, label.head? = some fieldEnd ∧ fieldEnd ∉ label.tail := by
      decide
    have hlength (s : RouteRequirements) : (openingValues s).length = openingLabels.length := rfl
    have hlengthLast (s : RouteRequirements) : (closingValues s).length = closingLabels.length := rfl
    obtain ⟨hopening, hrest⟩ := labelled_split hlabels (hlength r) (hlength r') (openingValues_clean hr)
      (openingValues_clean hr') (hcost _) (hcost _) hwritten
    obtain ⟨hknown, hrest⟩ := boolDigit_split (List.append_cancel_left hrest)
    obtain ⟨hceiling, hrest⟩ := boolDigit_split hrest
    have hfront (s : RouteRequirements) :
        stretch s ++ slash :: (decimal s.requiredProtocolVersion.toNat ++
            labelled closingLabels (closingValues s)) =
          (stretch s ++ slash :: decimal s.requiredProtocolVersion.toNat) ++
            labelled closingLabels (closingValues s) := by
      rw [List.append_assoc, List.cons_append]
    rw [hfront, hfront] at hrest
    obtain ⟨hrest, hclosing⟩ := labelled_split_last hlast (hlengthLast r) (hlengthLast r') (closingValues_clean r)
      (closingValues_clean r') hrest
    obtain ⟨hstretch, hversion⟩ := split_last (not_mem_decimal (by decide) _)
      (not_mem_decimal (by decide) _) hrest
    obtain ⟨hblank, hretries⟩ :=
      blank_eq hr hr' hopening hknown hceiling (decimal32 hversion) hclosing
    exact ⟨hretries, stretch_cases hblank hstretch⟩
  · rintro ⟨hretries, hrecut | hengulfs | hengulfs⟩
    · exact canonicalText_congr hrecut.blank_eq hrecut.stretch_eq hretries
    · exact canonicalText_congr hengulfs.1 hengulfs.stretch_eq hretries
    · exact canonicalText_congr hengulfs.1.symm hengulfs.stretch_eq.symm hretries

/-- The hashed text tells two accepted requirements apart exactly where they are not mistakable. -/
theorem canonicalText_injective_iff {limits : ResourceLimits} (h : r.validate limits = none)
    (h' : r'.validate limits = none) :
    (r.canonicalText = r'.canonicalText → r = r') ↔ ¬Mistakable r r' := by
  rw [canonicalText_eq_iff (written_of_valid h) (written_of_valid h')]
  constructor
  · rintro hinjective ⟨hdiffer, hsame⟩
    exact hdiffer (hinjective hsame)
  · intro hclear hsame
    by_contra hdiffer
    exact hclear ⟨hdiffer, hsame⟩

section

/-- Text requirements with the given retry counts. -/
def countedRequirements (attempts fallbacks : UInt32) : RouteRequirements where
  requiredInputModalities := ⟨1⟩
  retryPolicy := { maxAttempts := attempts, maxFallbacks := fallbacks }

/-- One attempt and twelve fallbacks write what eleven attempts and two fallbacks write. -/
theorem run_together_mistaken :
    (countedRequirements 1 12).canonicalize = countedRequirements 1 12 ∧
      (countedRequirements 11 2).canonicalize = countedRequirements 11 2 ∧
      (countedRequirements 1 12).validate {} = none ∧ (countedRequirements 11 2).validate {} = none ∧
      (countedRequirements 1 12).canonicalText = (countedRequirements 11 2).canonicalText ∧
      countedRequirements 1 12 ≠ countedRequirements 11 2 := by
  refine ⟨by decide, by decide, by decide, by decide, ?_, by decide⟩
  exact canonicalText_congr rfl rfl (by decide)

/-- The default retry counts and three fallbacks write different texts. -/
theorem default_counts_told_apart :
    (countedRequirements 2 2).canonicalText ≠ (countedRequirements 2 3).canonicalText := by
  intro hsame
  have hclear : ¬Mistakable (countedRequirements 2 2) (countedRequirements 2 3) := by
    rintro ⟨-, hretries, -⟩
    exact absurd hretries (by decide)
  have hvalid : (countedRequirements 2 2).validate {} = none := by decide
  have hvalid' : (countedRequirements 2 3).validate {} = none := by decide
  have hequal := (canonicalText_injective_iff hvalid hvalid').mpr hclear hsame
  exact absurd hequal (by decide)

end

end ModelRouter.Fingerprint
