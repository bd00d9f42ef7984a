import ModelRouter.Base.Json
import ModelRouter.Decision
import ModelRouter.Numerals

namespace ModelRouter.Rendering

open Base.Json Bytes Ids Outcome Evidence Authority Candidate Decision Sha256 Numerals

def escapeByte (ch : UInt8) : Text :=
  if ch = 34 then "\\\""
  else if ch = 92 then "\\\\"
  else if ch = 10 then "\\n"
  else if ch = 13 then "\\r"
  else if ch = 9 then "\\t"
  else if ch < 32 then text "\\u00" ++ [hexDigit (ch >>> 4), hexDigit (ch &&& 15)]
  else [ch]

def escapeJson (s : Text) : Text :=
  s.flatMap escapeByte

/-- The loops with a `first` flag: a comma before every part but the first. -/
def listed (first : Bool) : List Text → Text
  | [] => []
  | part :: rest => (if first then [] else text ",") ++ part ++ listed false rest

def flagText (b : Bool) : Text :=
  if b then "true" else "false"

def currentnessName : Currentness → Text
  | .current => "CURRENT" | .stale => "STALE"
  | .revalidationRequired => "REVALIDATION_REQUIRED" | .reconstructed => "RECONSTRUCTED"

def outcomeFactorJson (factor : ExplanationFactor) : Text :=
  text "\"" ++ escapeJson factor.key ++ text "\":\"" ++ escapeJson factor.value ++ text "\""

/-- `Explanation::to_json`. -/
def outcomeJson (e : Explanation) : Text :=
  text "\x7b\"code\":\"" ++ e.code.name ++ text "\",\"subject\":\"" ++ escapeJson e.subject ++
    text "\",\"message\":\"" ++ escapeJson e.message ++ text "\",\"factors\":\x7b" ++
    listed true (e.factors.map outcomeFactorJson) ++ text "\x7d\x7d"

def factorJson (factor : FactorValue) : Text :=
  text "\"" ++ factor.factor.name ++ text "\":\x7b" ++ text "\"known\":" ++
    flagText factor.known ++ text ",\"value\":" ++ signedDecimal factor.normalized ++
    text ",\"raw\":" ++ signedDecimal factor.raw ++ text ",\"weight\":" ++
    signedDecimal factor.weightPpm ++ text ",\"contribution\":" ++
    signedDecimal factor.contribution ++ text ",\"generation\":" ++
    decimal factor.evidenceGeneration.toNat ++ text ",\"source\":\"" ++
    escapeJson factor.source ++ text "\"\x7d"

def candidateJson (candidate : RankedCandidate) : Text :=
  text "\x7b\"rank\":" ++ decimal candidate.rank.toNat ++ text ",\"score\":" ++
    signedDecimal candidate.score ++ text ",\"candidate\":\"" ++
    escapeJson candidate.key.render ++ text "\",\"factors\":\x7b" ++
    listed true (candidate.factors.map factorJson) ++ text "\x7d\x7d"

def rejectionJson (rejection : RouteRejection) : Text :=
  text "\x7b\"model\":" ++ decimal rejection.modelId.toNat ++ text ",\"model_generation\":" ++
    decimal rejection.modelGeneration.value.toNat ++ text ",\"backend\":" ++
    decimal rejection.backendId.toNat ++ text ",\"backend_generation\":" ++
    decimal rejection.backendGeneration.value.toNat ++ text ",\"backend_boot\":" ++
    decimal rejection.backendBoot.value.toNat ++ text ",\"endpoint\":" ++
    decimal rejection.endpointId.toNat ++ text ",\"code\":\"" ++ rejection.code.name ++
    text "\",\"detail\":\"" ++ escapeJson rejection.detail ++ text "\"\x7d"

def fallbackJson (key : CandidateKey) : Text :=
  text "\"" ++ escapeJson key.render ++ text "\""

/-- `RouteExplanation::to_json`. -/
def explanationJson (e : RouteExplanation) : Text :=
  text "\x7b\"request\":\"" ++ decimal e.requestId.value.toNat ++ text "/" ++
    decimal e.requestGeneration.value.toNat ++ text "\",\"winner\":\"" ++
    escapeJson e.winner.render ++ text "\",\"eligible\":" ++
    decimal e.eligibleCandidateCount.toNat ++ text ",\"rejected\":" ++
    decimal e.rejectedCandidateCount.toNat ++ text ",\"policy_result\":\"" ++
    e.policyResult.name ++ text "\",\"currentness\":\"" ++ currentnessName e.currentness ++
    text "\",\"revalidation_required\":" ++ flagText e.revalidationRequired ++
    text ",\"tie_break\":\"" ++ escapeJson e.tieBreakReason ++
    text "\",\"authority_digest\":\"" ++ authorityDigest e.authority ++
    text "\",\"detail_retained\":" ++ flagText e.detailRetained ++ text ",\"ranking\":[" ++
    listed true (e.ranking.map candidateJson) ++ text "],\"rejections\":[" ++
    listed true (e.rejections.map rejectionJson) ++ text "],\"fallbacks\":[" ++
    listed true (e.fallbackOrder.map fallbackJson) ++ text "],\"cost\":\x7b\"currency\":\"" ++
    escapeJson e.cost.unit.currency ++ text "\",\"basis\":\"" ++ escapeJson e.cost.unit.basis ++
    text "\",\"estimated_total_micros\":" ++ signedDecimal e.cost.estimatedTotalMicros.toInt ++
    text ",\"knownness\":\"" ++ e.cost.knownness.name ++ text "\",\"price_generation\":" ++
    decimal e.cost.priceGeneration.value.toNat ++ text "\x7d,\"slo\":\x7b\"id\":" ++
    decimal e.slo.sloId.value.toNat ++ text ",\"generation\":" ++
    decimal e.slo.generation.value.toNat ++ text ",\"verdict\":\"" ++ e.slo.verdict.name ++
    text "\"\x7d,\"budget\":\x7b\"id\":" ++ decimal e.budget.budgetId.value.toNat ++
    text ",\"generation\":" ++ decimal e.budget.generation.value.toNat ++
    text ",\"verdict\":\"" ++ e.budget.verdict.name ++ text "\"\x7d,\"policy\":\x7b\"id\":" ++
    decimal e.policy.policyId.value.toNat ++ text ",\"generation\":" ++
    decimal e.policy.generation.value.toNat ++ text "\x7d,\"requirement_digest\":\"" ++
    e.requirementDigest ++ text "\",\"semantic_digest\":\"" ++ e.semanticDigest ++
    text "\"\x7d"

section

def number (n : Nat) : Value :=
  .number n

def factorTree (factor : FactorValue) : Text × Value :=
  (factor.factor.name, .object
    [("known", .flag factor.known), ("value", .number factor.normalized),
      ("raw", .number factor.raw), ("weight", .number factor.weightPpm),
      ("contribution", .number factor.contribution),
      ("generation", number factor.evidenceGeneration.toNat), ("source", .string factor.source)])

def candidateTree (candidate : RankedCandidate) : Value :=
  .object
    [("rank", number candidate.rank.toNat), ("score", .number candidate.score),
      ("candidate", .string candidate.key.render),
      ("factors", .object (candidate.factors.map factorTree))]

def rejectionTree (rejection : RouteRejection) : Value :=
  .object
    [("model", number rejection.modelId.toNat),
      ("model_generation", number rejection.modelGeneration.value.toNat),
      ("backend", number rejection.backendId.toNat),
      ("backend_generation", number rejection.backendGeneration.value.toNat),
      ("backend_boot", number rejection.backendBoot.value.toNat),
      ("endpoint", number rejection.endpointId.toNat), ("code", .string rejection.code.name),
      ("detail", .string rejection.detail)]

/-- The document an explanation stands for. -/
def explanationTree (e : RouteExplanation) : Value :=
  .object
    [("request", .string (decimal e.requestId.value.toNat ++ text "/" ++
        decimal e.requestGeneration.value.toNat)),
      ("winner", .string e.winner.render),
      ("eligible", number e.eligibleCandidateCount.toNat),
      ("rejected", number e.rejectedCandidateCount.toNat),
      ("policy_result", .string e.policyResult.name),
      ("currentness", .string (currentnessName e.currentness)),
      ("revalidation_required", .flag e.revalidationRequired),
      ("tie_break", .string e.tieBreakReason),
      ("authority_digest", .string (authorityDigest e.authority)),
      ("detail_retained", .flag e.detailRetained),
      ("ranking", .array (e.ranking.map candidateTree)),
      ("rejections", .array (e.rejections.map rejectionTree)),
      ("fallbacks", .array (e.fallbackOrder.map fun key => .string key.render)),
      ("cost", .object
        [("currency", .string e.cost.unit.currency), ("basis", .string e.cost.unit.basis),
          ("estimated_total_micros", .number e.cost.estimatedTotalMicros.toInt),
          ("knownness", .string e.cost.knownness.name),
          ("price_generation", number e.cost.priceGeneration.value.toNat)]),
      ("slo", .object
        [("id", number e.slo.sloId.value.toNat),
          ("generation", number e.slo.generation.value.toNat),
          ("verdict", .string e.slo.verdict.name)]),
      ("budget", .object
        [("id", number e.budget.budgetId.value.toNat),
          ("generation", number e.budget.generation.value.toNat),
          ("verdict", .string e.budget.verdict.name)]),
      ("policy", .object
        [("id", number e.policy.policyId.value.toNat),
          ("generation", number e.policy.generation.value.toNat)]),
      ("requirement_digest", .string e.requirementDigest),
      ("semantic_digest", .string e.semanticDigest)]

def outcomeTree (e : Explanation) : Value :=
  .object
    [("code", .string e.code.name), ("subject", .string e.subject),
      ("message", .string e.message),
      ("factors", .object (e.factors.map fun factor => (factor.key, .string factor.value)))]

end

theorem control_digits {b : UInt8} (h : b < 32) :
    hexValue (hexDigit (b >>> 4)) = some (b >>> 4) ∧
      hexValue (hexDigit (b &&& 15)) = some (b &&& 15) ∧ b >>> 4 < 8 ∧
      (16 : UInt8) * (b >>> 4) + (b &&& 15) = b := by
  have hall : ∀ n : Fin 32,
      hexValue (hexDigit (n.val.toUInt8 >>> 4)) = some (n.val.toUInt8 >>> 4) ∧
      hexValue (hexDigit (n.val.toUInt8 &&& 15)) = some (n.val.toUInt8 &&& 15) ∧
      n.val.toUInt8 >>> 4 < 8 ∧
      (16 : UInt8) * (n.val.toUInt8 >>> 4) + (n.val.toUInt8 &&& 15) = n.val.toUInt8 := by
    decide +kernel
  have hb := hall ⟨b.toNat, UInt8.lt_iff_toNat_lt.mp h⟩
  simpa only [Nat.toUInt8_eq, UInt8.ofNat_toNat] using hb

theorem escapeByte_taken (b : UInt8) (rest : Text) :
    readByte (escapeByte b ++ rest) = some (b, rest) := by
  by_cases hquote : b = 34
  · subst hquote
    rfl
  by_cases hslash : b = 92
  · subst hslash
    rfl
  by_cases hline : b = 10
  · subst hline
    rfl
  by_cases hreturn : b = 13
  · subst hreturn
    rfl
  by_cases htab : b = 9
  · subst htab
    rfl
  rw [escapeByte, if_neg hquote, if_neg hslash, if_neg hline, if_neg hreturn, if_neg htab]
  by_cases hcontrol : b < 32
  · obtain ⟨hhigh, hlow, hascii, hsum⟩ := control_digits hcontrol
    have hread : readByte (text "\\u00" ++ [hexDigit (b >>> 4), hexDigit (b &&& 15)] ++ rest) =
        (hexValue (hexDigit (b >>> 4))).bind fun h =>
          (hexValue (hexDigit (b &&& 15))).bind fun l =>
            if h < 8 then some (16 * h + l, rest) else none := rfl
    rw [if_pos hcontrol, hread, hhigh, hlow, Option.bind_some, Option.bind_some, if_pos hascii,
      hsum]
  · rw [if_neg hcontrol]
    simp [readByte, hquote, hslash, hcontrol]

def escaping : Escaping where
  write := escapeByte
  taken := escapeByte_taken

theorem listed_eq (parts : List Text) :
    listed true parts = [44].intercalate parts := by
  cases parts with
  | nil => rfl
  | cons part rest =>
      induction rest generalizing part with
      | nil => simp [listed]
      | cons next rest ih =>
          have hnext := ih next
          rw [List.intercalate_cons_cons, ← hnext, List.append_assoc]
          rfl

theorem decimal_number (n : Nat) : decimal n = escaping.print (number n) := decimal_eq n

theorem signedDecimal_number (n : Int) : signedDecimal n = escaping.print (.number n) := by
  cases n with
  | ofNat n => exact decimal_eq n
  | negSucc n =>
      rw [signedDecimal_neg, decimal_eq]
      rfl

theorem flagText_eq (b : Bool) : flagText b = escaping.print (.flag b) := by
  cases b with
  | true => rfl
  | false => rfl

theorem escapeJson_eq (s : Text) : escapeJson s = escaping.string s := rfl

theorem factorName_plain (f : RankingFactor) : escaping.string f.name = f.name := by
  cases f <;> rfl

theorem outcomeName_plain (c : OutcomeCode) : escaping.string c.name = c.name := by
  cases c <;> rfl

theorem currentnessName_plain (c : Currentness) :
    escaping.string (currentnessName c) = currentnessName c := by
  cases c <;> rfl

theorem knownnessName_plain (k : CostKnownness) : escaping.string k.name = k.name := by
  cases k <;> rfl

theorem sloVerdictName_plain (v : SloVerdict) : escaping.string v.name = v.name := by
  cases v <;> rfl

theorem budgetVerdictName_plain (v : BudgetVerdict) : escaping.string v.name = v.name := by
  cases v <;> rfl

theorem hexDigit_plain (b : UInt8) (h : b < 16) : escapeByte (hexDigit b) = [hexDigit b] := by
  have hall : ∀ d : Fin 16, escapeByte (hexDigit d.val.toUInt8) = [hexDigit d.val.toUInt8] := by
    decide +kernel
  have hd := hall ⟨b.toNat, UInt8.lt_iff_toNat_lt.mp h⟩
  simpa only [Nat.toUInt8_eq, UInt8.ofNat_toNat] using hd

theorem toHex_plain (digest : List UInt8) : escaping.Plain (toHex digest) := by
  intro b hb
  obtain ⟨byte, -, hbyte⟩ := List.mem_flatMap.mp hb
  have hhigh : byte >>> 4 < 16 := by
    rw [UInt8.lt_iff_toNat_lt]
    have hlt := byte.toNat_lt
    simp [Nat.shiftRight_eq_div_pow]
    omega
  have hlow : byte &&& 15 < 16 := by
    rw [UInt8.lt_iff_toNat_lt]
    have hle : byte.toNat &&& 15 ≤ 15 := Nat.and_le_right
    simp
    omega
  simp only [List.mem_cons, List.not_mem_nil, or_false] at hbyte
  rcases hbyte with rfl | rfl
  · exact hexDigit_plain _ hhigh
  · exact hexDigit_plain _ hlow

theorem isDigit_plain {b : UInt8} (h : Numerals.IsDigit b) : escapeByte b = [b] := by
  have hne (c : UInt8) (hc : ¬Numerals.IsDigit c) : b ≠ c := by
    rintro rfl
    exact hc h
  have hcontrol : ¬b < 32 := by
    have := h.1
    rw [UInt8.lt_iff_toNat_lt]
    simp
    omega
  rw [escapeByte, if_neg (hne 34 (by decide)), if_neg (hne 92 (by decide)),
    if_neg (hne 10 (by decide)), if_neg (hne 13 (by decide)), if_neg (hne 9 (by decide)),
    if_neg hcontrol]

theorem request_plain (n m : Nat) :
    escaping.string (escaping.print (number n) ++ (text "/" ++ escaping.print (number m))) =
      escaping.print (number n) ++ (text "/" ++ escaping.print (number m)) := by
  rw [← decimal_number, ← decimal_number]
  apply escaping.string_plain
  intro b hb
  rcases List.mem_append.mp hb with hb | hb
  · exact isDigit_plain (decimal_digit hb)
  rcases List.mem_append.mp hb with hb | hb
  · obtain rfl : b = 47 := List.mem_singleton.mp hb
    rfl
  · exact isDigit_plain (decimal_digit hb)

theorem factorJson_eq (factor : FactorValue) :
    factorJson factor = escaping.printMember (factorTree factor) := by
  rw [Escaping.printMember, factorTree]
  simp only [factorName_plain, factorJson, Escaping.print, Escaping.printMembers,
     List.append_assoc, List.cons_append, List.nil_append, decimal_number,
    signedDecimal_number, escapeJson_eq, flagText_eq]
  rfl

theorem array_eq {α : Type} {tree : α → Value} {json : α → Text} {xs : List α}
    (h : ∀ x ∈ xs, json x = escaping.print (tree x)) :
    escaping.print (.array (xs.map tree)) = 91 :: (listed true (xs.map json) ++ [93]) := by
  have hmap : xs.map json = xs.map (escaping.print ∘ tree) := List.map_congr_left h
  rw [Escaping.print_array, listed_eq, List.map_map, hmap]

theorem object_eq {α : Type} {tree : α → Text × Value} {json : α → Text} {xs : List α}
    (h : ∀ x ∈ xs, json x = escaping.printMember (tree x)) :
    escaping.print (.object (xs.map tree)) = 123 :: (listed true (xs.map json) ++ [125]) := by
  have hmap : xs.map json = xs.map (escaping.printMember ∘ tree) := List.map_congr_left h
  rw [Escaping.print_object, listed_eq, List.map_map, hmap]

theorem candidateJson_eq (candidate : RankedCandidate) :
    candidateJson candidate = escaping.print (candidateTree candidate) := by
  have hfactors := object_eq fun factor (_ : factor ∈ candidate.factors) =>
    factorJson_eq factor
  simp only [candidateJson, candidateTree, Escaping.print, Escaping.printMembers, hfactors,
    List.append_assoc, List.cons_append, List.nil_append, decimal_number, signedDecimal_number,
    escapeJson_eq]
  generalize escaping.string candidate.key.render = key
  rfl

theorem rejectionJson_eq (rejection : RouteRejection) :
    rejectionJson rejection = escaping.print (rejectionTree rejection) := by
  simp only [rejectionJson, rejectionTree, Escaping.print, Escaping.printMembers,
    outcomeName_plain, List.append_assoc, List.cons_append, List.nil_append, decimal_number]
  rfl

theorem fallbackJson_eq (key : CandidateKey) :
    fallbackJson key = escaping.print (.string key.render) := by
  rw [fallbackJson, escapeJson_eq, Escaping.print]
  generalize escaping.string key.render = rendered
  rfl

/-- The explanations whose digests, which are written as they stand, need no escaping. -/
def PlainDigests (e : RouteExplanation) : Prop :=
  escaping.Plain e.requirementDigest ∧ escaping.Plain e.semanticDigest

theorem authorityDigest_plain (a : RouteAuthority) :
    escaping.string (authorityDigest a) = authorityDigest a := by
  rw [authorityDigest, hexDigest]
  exact escaping.string_plain (toHex_plain _)

set_option maxRecDepth 8192 in
theorem explanationJson_eq {e : RouteExplanation} (h : PlainDigests e) :
    explanationJson e = escaping.print (explanationTree e) := by
  have hrequirement := escaping.string_plain h.1
  have hsemantic := escaping.string_plain h.2
  have hranking := array_eq fun candidate (_ : candidate ∈ e.ranking) => candidateJson_eq candidate
  have hrejections := array_eq fun rejection (_ : rejection ∈ e.rejections) =>
    rejectionJson_eq rejection
  have hfallbacks := array_eq fun key (_ : key ∈ e.fallbackOrder) => fallbackJson_eq key
  unfold explanationJson explanationTree
  simp only [Escaping.print, Escaping.printMembers, outcomeName_plain, currentnessName_plain,
    knownnessName_plain, sloVerdictName_plain, budgetVerdictName_plain, authorityDigest_plain,
    hrequirement, hsemantic, hranking, hrejections, hfallbacks, flagText_eq, decimal_number,
    signedDecimal_number, escapeJson_eq, List.append_assoc, List.cons_append, List.nil_append,
    request_plain]
  generalize escaping.string e.winner.render = winner
  generalize authorityDigest e.authority = authority

  rfl

theorem outcomeFactorJson_eq (factor : ExplanationFactor) :
    outcomeFactorJson factor = escaping.printMember (factor.key, .string factor.value) := by
  simp only [Escaping.printMember, Escaping.print, outcomeFactorJson, escapeJson_eq,
    List.cons_append, List.append_assoc]
  rfl

theorem outcomeJson_eq (e : Explanation) : outcomeJson e = escaping.print (outcomeTree e) := by
  have hfactors := object_eq fun factor (_ : factor ∈ e.factors) => outcomeFactorJson_eq factor
  unfold outcomeJson outcomeTree
  simp only [Escaping.print, Escaping.printMembers, outcomeName_plain, hfactors, escapeJson_eq,
    List.cons_append, List.append_assoc, List.nil_append]
  rfl

/-- The rendered outcome reads back as its document, whatever texts it carries. -/
theorem outcomeJson_reads (e : Explanation) : read (outcomeJson e) = some (outcomeTree e) := by
  rw [outcomeJson_eq]
  exact escaping.read_print _

end ModelRouter.Rendering
