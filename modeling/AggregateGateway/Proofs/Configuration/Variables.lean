import AggregateGateway.Config
import AggregateGateway.Proofs.Text.Numerals
import Mathlib.Logic.Function.Basic

/-! The variables behind a configuration. Each setting has a variable of its own and is read from
that alone, by a rule that takes a number out of bounds for no number at all; only the address that
views report is put together from several variables. -/

namespace AggregateGateway

open Text (Spells isBlankText trim unsigned? unsigned?_eq_some_iff)
open Time (Span)

theorem Time.Span.ext_nanos {s t : Span} (h : s.nanos = t.nanos) : s = t := by
  cases s
  cases t
  cases h
  rfl

namespace Config

/-- A setting that has a variable of its own. -/
inductive Setting where
  | host
  | port
  | itemUrl
  | ratingsUrl
  | commentaryUrl
  | healthTimeout
  | secondaryTimeout
  | itemTimeout
  | retryMaxAttempts
  | retryWait
  | breakerWindowSize
  | breakerMinimumCalls
  | breakerFailureRate
  | breakerOpenWait
  | breakerHalfOpenCalls
  | brokers
  | itemsTopic
  | ratingsTopic
  | commentaryTopic
  | workers
  | queueCapacity

/-- What a setting is set to; spans are given in nanoseconds. -/
inductive Content where
  | text (s : String)
  | number (n : Nat)

/-- How a setting is read from its variable. A number has a limit, and a unit it is counted in. -/
inductive Rule where
  | text (default : String)
  | number (limit unit default : Nat)

namespace Setting

/-- The name of the variable. -/
def name : Setting → String
  | .host => "HOST"
  | .port => "PORT"
  | .itemUrl => "ITEM_SERVICE_URL"
  | .ratingsUrl => "RATINGS_SERVICE_URL"
  | .commentaryUrl => "COMMENTARY_SERVICE_URL"
  | .healthTimeout => "HEALTH_TIMEOUT_MS"
  | .secondaryTimeout => "SECONDARY_TIMEOUT_MS"
  | .itemTimeout => "ITEM_TIMEOUT_MS"
  | .retryMaxAttempts => "RETRY_MAX_ATTEMPTS"
  | .retryWait => "RETRY_WAIT_MS"
  | .breakerWindowSize => "BREAKER_WINDOW_SIZE"
  | .breakerMinimumCalls => "BREAKER_MINIMUM_CALLS"
  | .breakerFailureRate => "BREAKER_FAILURE_RATE"
  | .breakerOpenWait => "BREAKER_OPEN_WAIT_MS"
  | .breakerHalfOpenCalls => "BREAKER_HALF_OPEN_CALLS"
  | .brokers => "REDPANDA_BROKERS"
  | .itemsTopic => "ITEMS_TOPIC"
  | .ratingsTopic => "RATINGS_TOPIC"
  | .commentaryTopic => "COMMENTARY_TOPIC"
  | .workers => "PUBLISH_POOL_WORKERS"
  | .queueCapacity => "PUBLISH_QUEUE_CAPACITY"

def count (default : Nat) : Rule := .number (UInt64.size - 1) 1 default

def millis (default : Nat) : Rule := .number (UInt64.size - 1) 1000000 default

def rule : Setting → Rule
  | .host => .text "0.0.0.0"
  | .port => .number (UInt16.size - 1) 1 8080
  | .itemUrl => .text "http://item:8080"
  | .ratingsUrl => .text "http://ratings:8080"
  | .commentaryUrl => .text "http://commentary:8080"
  | .healthTimeout => millis 2000
  | .secondaryTimeout => millis 5000
  | .itemTimeout => millis 2000
  | .retryMaxAttempts => count 3
  | .retryWait => millis 1000
  | .breakerWindowSize => count 5
  | .breakerMinimumCalls => count 5
  | .breakerFailureRate => .number (UInt8.size - 1) 1 50
  | .breakerOpenWait => millis 10000
  | .breakerHalfOpenCalls => count 3
  | .brokers => .text "localhost:9092"
  | .itemsTopic => .text "items"
  | .ratingsTopic => .text "ratings"
  | .commentaryTopic => .text "commentary"
  | .workers => count 10
  | .queueCapacity => count 100

def all : List Setting :=
  [.host, .port, .itemUrl, .ratingsUrl, .commentaryUrl, .healthTimeout, .secondaryTimeout,
    .itemTimeout, .retryMaxAttempts, .retryWait, .breakerWindowSize, .breakerMinimumCalls,
    .breakerFailureRate, .breakerOpenWait, .breakerHalfOpenCalls, .brokers, .itemsTopic,
    .ratingsTopic, .commentaryTopic, .workers, .queueCapacity]

theorem find?_name (s : Setting) : all.find? (fun t => t.name == s.name) = some s := by
  cases s <;> rfl

theorem name_injective : Function.Injective name := by
  intro s t h
  have hs := find?_name s
  rw [h, find?_name t] at hs
  exact (Option.some.inj hs).symm

/-- The names of the variables that no setting has for its own. -/
def addressNames : List String := ["SERVICE_ADDRESS", "HOSTNAME"]

theorem name_not_mem_addressNames (s : Setting) : s.name ∉ addressNames := by
  cases s <;> decide

end Setting

/-- What the value of a variable means; without one, or if it cannot be read, the default. -/
def Rule.content : Rule → Option String → Content
  | .text default, value => .text (value.getD default)
  | .number limit unit default, value =>
    .number (((value.bind fun v => unsigned? limit (trim v.toList)).getD default) * unit)

def content (c : Config) : Setting → Content
  | .host => .text c.server.host
  | .port => .number c.server.port.toNat
  | .itemUrl => .text c.downstream.itemUrl
  | .ratingsUrl => .text c.downstream.ratingsUrl
  | .commentaryUrl => .text c.downstream.commentaryUrl
  | .healthTimeout => .number c.downstream.healthTimeout.nanos
  | .secondaryTimeout => .number c.downstream.secondaryTimeout.nanos
  | .itemTimeout => .number c.resilience.itemTimeout.nanos
  | .retryMaxAttempts => .number c.resilience.retryMaxAttempts.toNat
  | .retryWait => .number c.resilience.retryWait.nanos
  | .breakerWindowSize => .number c.resilience.breakerWindowSize.toNat
  | .breakerMinimumCalls => .number c.resilience.breakerMinimumCalls.toNat
  | .breakerFailureRate => .number c.resilience.breakerFailureRate.toNat
  | .breakerOpenWait => .number c.resilience.breakerOpenWait.nanos
  | .breakerHalfOpenCalls => .number c.resilience.breakerHalfOpenCalls.toNat
  | .brokers => .text c.channel.brokers
  | .itemsTopic => .text c.channel.itemsTopic
  | .ratingsTopic => .text c.channel.ratingsTopic
  | .commentaryTopic => .text c.channel.commentaryTopic
  | .workers => .number c.publisher.workers.toNat
  | .queueCapacity => .number c.publisher.queueCapacity.toNat

/-- There is nothing in a configuration but its settings and the address. -/
theorem ext_content {c c' : Config} (h : ∀ s, c.content s = c'.content s)
    (haddress : c.server.serviceAddress = c'.server.serviceAddress) : c = c' := by
  have htext {a b : String} (heq : Content.text a = .text b) : a = b := Content.text.inj heq
  have hspan {a b : Span} (heq : Content.number a.nanos = .number b.nanos) : a = b :=
    Span.ext_nanos (Content.number.inj heq)
  have hcount {a b : UInt64} (heq : Content.number a.toNat = .number b.toNat) : a = b :=
    UInt64.toNat_inj.mp (Content.number.inj heq)
  obtain ⟨⟨_, _, _⟩, ⟨_, _, _, _, _⟩, ⟨_, _, _, _, _, _, _, _⟩, ⟨_, _, _, _⟩, ⟨_, _⟩⟩ := c
  obtain ⟨⟨_, _, _⟩, ⟨_, _, _, _, _⟩, ⟨_, _, _, _, _, _, _, _⟩, ⟨_, _, _, _⟩, ⟨_, _⟩⟩ := c'
  simp only [Config.mk.injEq, Server.mk.injEq, Downstream.mk.injEq, Resilience.mk.injEq,
    Channel.mk.injEq, Publisher.mk.injEq]
  exact ⟨⟨htext (h .host), UInt16.toNat_inj.mp (Content.number.inj (h .port)), haddress⟩,
    ⟨htext (h .itemUrl), htext (h .ratingsUrl), htext (h .commentaryUrl),
      hspan (h .healthTimeout), hspan (h .secondaryTimeout)⟩,
    ⟨hspan (h .itemTimeout), hcount (h .retryMaxAttempts), hspan (h .retryWait),
      hcount (h .breakerWindowSize), hcount (h .breakerMinimumCalls),
      UInt8.toNat_inj.mp (Content.number.inj (h .breakerFailureRate)),
      hspan (h .breakerOpenWait), hcount (h .breakerHalfOpenCalls)⟩,
    ⟨htext (h .brokers), htext (h .itemsTopic), htext (h .ratingsTopic),
      htext (h .commentaryTopic)⟩,
    ⟨hcount (h .workers), hcount (h .queueCapacity)⟩⟩

namespace Variables

variable (vars : Variables) (name : String)

theorem number_le {limit default : Nat} (h : default ≤ limit) :
    vars.number limit name default ≤ limit := by
  unfold number
  cases hread : (vars.get? name).bind fun v => unsigned? limit (trim v.toList) with
  | none => exact h
  | some n =>
    obtain ⟨v, -, hv⟩ := Option.bind_eq_some_iff.mp hread
    exact (unsigned?_eq_some_iff.mp hv).2

theorem toNat_word {default : Nat} (h : default ≤ UInt64.size - 1) :
    (vars.word name default).toNat = vars.number (UInt64.size - 1) name default :=
  UInt64.toNat_ofNat_of_lt' (Nat.lt_of_le_sub_one (by decide) (vars.number_le name h))

end Variables

theorem content_ofVariables (vars : Variables) (s : Setting) :
    (ofVariables vars).content s = s.rule.content (vars.get? s.name) := by
  have hcount (name : String) {default : Nat} (h : default ≤ UInt64.size - 1) :
      Content.number (vars.word name default).toNat =
        (Setting.count default).content (vars.get? name) := by
    rw [vars.toNat_word name h, Setting.count, Rule.content, Nat.mul_one]
    rfl
  have hmillis (name : String) {default : Nat} (h : default ≤ UInt64.size - 1) :
      Content.number (vars.millis name default).nanos =
        (Setting.millis default).content (vars.get? name) := by
    have hnanos : (vars.millis name default).nanos = (vars.word name default).toNat * 1000000 := rfl
    rw [hnanos, vars.toNat_word name h]
    rfl
  cases s with
  | host | itemUrl | ratingsUrl | commentaryUrl | brokers | itemsTopic | ratingsTopic
  | commentaryTopic => rfl
  | port =>
    have hport : vars.number (UInt16.size - 1) "PORT" 8080 < UInt16.size :=
      Nat.lt_of_le_sub_one (by decide) (vars.number_le "PORT" (by decide))
    exact congrArg Content.number
      ((UInt16.toNat_ofNat_of_lt' hport).trans (Nat.mul_one _).symm)
  | breakerFailureRate =>
    have hrate : vars.number (UInt8.size - 1) "BREAKER_FAILURE_RATE" 50 < UInt8.size :=
      Nat.lt_of_le_sub_one (by decide) (vars.number_le "BREAKER_FAILURE_RATE" (by decide))
    exact congrArg Content.number
      ((UInt8.toNat_ofNat_of_lt' hrate).trans (Nat.mul_one _).symm)
  | healthTimeout | secondaryTimeout | itemTimeout | retryWait | breakerOpenWait =>
    exact hmillis _ (by decide)
  | retryMaxAttempts | breakerWindowSize | breakerMinimumCalls | breakerHalfOpenCalls | workers
  | queueCapacity => exact hcount _ (by decide)

/-- A number that is blank or cannot be read. -/
def Misspelt (limit : Nat) (value : String) : Prop :=
  isBlankText value = true ∨ ∀ n ≤ limit, ¬ Spells (trim value.toList) n

section Values

variable {limit unit default : Nat} {value : String} {vars vars' : Variables}

theorem get?_of_unset {name : String} (h : vars name = none) : vars.get? name = none := by
  rw [Variables.get?, h]
  rfl

theorem get?_of_value {name : String} (h : vars name = some value) :
    vars.get? name = if isBlankText value then none else some value := by
  cases hblank : isBlankText value <;> simp [Variables.get?, h, hblank]

theorem get?_of_spells {name : String} {n : Nat} (h : vars name = some value)
    (hspells : Spells (trim value.toList) n) : vars.get? name = some value := by
  simp [get?_of_value h, Text.not_isBlankText_of_spells hspells]

theorem Rule.content_of_spells {n : Nat} (h : Spells (trim value.toList) n) (hlimit : n ≤ limit) :
    (Rule.number limit unit default).content (some value) = .number (n * unit) := by
  rw [content, Option.bind_some, unsigned?_eq_some_iff.mpr ⟨h, hlimit⟩]
  rfl

theorem Rule.content_of_misspelt {name : String} (hvalue : vars name = some value)
    (h : Misspelt limit value) :
    (Rule.number limit unit default).content (vars.get? name) =
      (Rule.number limit unit default).content none := by
  rw [get?_of_value hvalue]
  rcases h with hblank | hnone
  · rw [if_pos hblank]
  · have hread : unsigned? limit (trim value.toList) = none :=
      Option.eq_none_iff_forall_ne_some.mpr fun n hn =>
        hnone n (unsigned?_eq_some_iff.mp hn).2 (unsigned?_eq_some_iff.mp hn).1
    split
    · rfl
    · rw [content, Option.bind_some, hread]
      rfl

/-! ### One variable at a time -/

theorem content_congr {s : Setting} (h : vars'.get? s.name = vars.get? s.name) :
    (ofVariables vars').content s = (ofVariables vars).content s := by
  rw [content_ofVariables, content_ofVariables, h]

theorem serviceAddress_ofVariables (vars : Variables) :
    (ofVariables vars).server.serviceAddress =
      (vars.get? "SERVICE_ADDRESS").getD ((vars.get? "HOSTNAME").getD "localhost" ++ ":" ++
        toString (ofVariables vars).server.port.toNat) := rfl

theorem serviceAddress_congr
    (h : ∀ name ∈ Setting.addressNames, vars'.get? name = vars.get? name)
    (hport : (ofVariables vars').content .port = (ofVariables vars).content .port) :
    (ofVariables vars').server.serviceAddress = (ofVariables vars).server.serviceAddress := by
  have hnumber : (ofVariables vars').server.port.toNat = (ofVariables vars).server.port.toNat :=
    Content.number.inj hport
  rw [serviceAddress_ofVariables, serviceAddress_ofVariables, hnumber, h "SERVICE_ADDRESS",
    h "HOSTNAME"] <;> decide

theorem ofVariables_congr (h : ∀ name, vars'.get? name = vars.get? name) :
    ofVariables vars' = ofVariables vars :=
  ext_content (fun s => content_congr (h s.name))
    (serviceAddress_congr (fun name _ => h name) (content_congr (h "PORT")))

/-- A blank value is as good as none, whatever it is the value of. -/
theorem ofVariables_blank (vars : Variables) (name : String) (h : isBlankText value = true) :
    ofVariables (Function.update vars name (some value)) =
      ofVariables (Function.update vars name none) := by
  refine ofVariables_congr fun other => ?_
  by_cases hother : other = name
  · rw [hother, get?_of_value (Function.update_self ..), if_pos h,
      get?_of_unset (Function.update_self ..)]
  · rw [Variables.get?, Function.update_of_ne hother, Variables.get?, Function.update_of_ne hother]

/-- The variables have the same values with the exception of `name`. -/
def AgreeBut (name : String) (vars vars' : Variables) : Prop :=
  ∀ other, other ≠ name → vars' other = vars other

theorem AgreeBut.get? {name other : String} (h : AgreeBut name vars vars') (hne : other ≠ name) :
    vars'.get? other = vars.get? other := by
  rw [Variables.get?, h other hne]
  rfl

theorem AgreeBut.content {name : String} (h : AgreeBut name vars vars') {s : Setting}
    (hne : s.name ≠ name) : (ofVariables vars').content s = (ofVariables vars).content s :=
  content_congr (h.get? hne)

theorem AgreeBut.serviceAddress {name : String} (h : AgreeBut name vars vars')
    (hname : name ∉ Setting.addressNames)
    (hport : (ofVariables vars').content .port = (ofVariables vars).content .port) :
    (ofVariables vars').server.serviceAddress = (ofVariables vars).server.serviceAddress :=
  serviceAddress_congr (fun _ hother => h.get? fun heq => hname (heq ▸ hother)) hport

/-- A number that cannot be read is as good as none. -/
theorem ofVariables_misspelt (vars : Variables) {s : Setting}
    (hrule : s.rule = .number limit unit default) (h : Misspelt limit value) :
    ofVariables (Function.update vars s.name (some value)) =
      ofVariables (Function.update vars s.name none) := by
  have hagree : AgreeBut s.name (Function.update vars s.name none)
      (Function.update vars s.name (some value)) := by
    intro other hne
    rw [Function.update_of_ne hne, Function.update_of_ne hne]
  have hcontent (t : Setting) :
      (ofVariables (Function.update vars s.name (some value))).content t =
        (ofVariables (Function.update vars s.name none)).content t := by
    by_cases ht : t.name = s.name
    · obtain rfl := Setting.name_injective ht
      have hunset : Variables.get? (Function.update vars t.name none) t.name = none :=
        get?_of_unset (Function.update_self ..)
      rw [content_ofVariables, content_ofVariables, hrule, hunset,
        Rule.content_of_misspelt (Function.update_self t.name (some value) vars) h]
    · exact hagree.content ht
  exact ext_content hcontent
    (hagree.serviceAddress s.name_not_mem_addressNames (hcontent .port))

end Values

/-- A variable decides about its own setting and nothing else, but for the address, which follows
from three of them. A blank value counts for none. A number in bounds is taken as it is spelt, and
any other value of its variable is as good as none. -/
theorem variables_act_alone :
    Function.Injective Setting.name ∧ (∀ s : Setting, s.name ∉ Setting.addressNames) ∧
    ∀ vars : Variables,
      let c := ofVariables vars
      (∀ name, (vars name = none → vars.get? name = none) ∧
        ∀ value, vars name = some value →
          vars.get? name = if isBlankText value then none else some value) ∧
      (∀ name value, isBlankText value = true →
        ofVariables (Function.update vars name (some value)) =
          ofVariables (Function.update vars name none)) ∧
      c.server.serviceAddress =
        (vars.get? "SERVICE_ADDRESS").getD ((vars.get? "HOSTNAME").getD "localhost" ++ ":" ++
          toString c.server.port.toNat) ∧
      (∀ (vars' : Variables) (name : String), (∀ other, other ≠ name → vars' other = vars other) →
        let c' := ofVariables vars'
        (∀ s : Setting, s.name ≠ name → c'.content s = c.content s) ∧
        (name ∉ ["PORT", "HOSTNAME", "SERVICE_ADDRESS"] →
          c'.server.serviceAddress = c.server.serviceAddress) ∧
        (name ∉ Setting.addressNames → (∀ s : Setting, s.name ≠ name) → c' = c)) ∧
      (∀ s default, s.rule = .text default →
        c.content s = .text ((vars.get? s.name).getD default)) ∧
      ∀ s limit unit default, s.rule = .number limit unit default →
        (vars s.name = none → c.content s = .number (default * unit)) ∧
        (∀ value n, vars s.name = some value → Spells (trim value.toList) n → n ≤ limit →
          c.content s = .number (n * unit)) ∧
        ∀ value, Misspelt limit value →
          ofVariables (Function.update vars s.name (some value)) =
            ofVariables (Function.update vars s.name none) := by
  refine ⟨Setting.name_injective, Setting.name_not_mem_addressNames, fun vars => ?_⟩
  intro c
  refine ⟨fun name => ⟨get?_of_unset, fun value => get?_of_value⟩,
    fun name value => ofVariables_blank vars name, rfl, ?_, ?_, ?_⟩
  · intro vars' name hagree c'
    replace hagree : AgreeBut name vars vars' := hagree
    refine ⟨fun s hs => hagree.content hs, ?_, ?_⟩
    · intro hname
      simp only [List.mem_cons, List.not_mem_nil, or_false, not_or] at hname
      obtain ⟨hport, hhost, haddress⟩ := hname
      have hnames : name ∉ Setting.addressNames := by
        simp [Setting.addressNames, hhost, haddress]
      exact hagree.serviceAddress hnames (hagree.content (Ne.symm hport))
    · intro hname hnone
      exact ext_content (fun s => hagree.content (hnone s))
        (hagree.serviceAddress hname (hagree.content (hnone .port)))
  · intro s default hrule
    rw [content_ofVariables, hrule]
    rfl
  · intro s limit unit default hrule
    refine ⟨?_, ?_, fun value h => ofVariables_misspelt vars hrule h⟩
    · intro hunset
      rw [content_ofVariables, hrule, get?_of_unset hunset]
      rfl
    · intro value n hvalue hspells hlimit
      rw [content_ofVariables, hrule, get?_of_spells hvalue hspells,
        Rule.content_of_spells hspells hlimit]

end Config

end AggregateGateway
