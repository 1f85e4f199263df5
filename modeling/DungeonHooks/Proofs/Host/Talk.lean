import DungeonHooks.Host.Talk

/-! Laws of talks: how they follow on each other, and what holds whatever the host answers. -/

namespace DungeonHooks

/-- A request is served by the host alone: journal and log have no say in it. -/
theorem Request.serve_deaf {σ : Type} [Host σ] (request : Request) {cx other : Context σ}
    (same : cx.host = other.host) :
    (request.serve cx).1 = (request.serve other).1 ∧
      (request.serve cx).2.host = (request.serve other).2.host := by
  -- Questions read the host, commands are given to it, and entries only go to the journal.
  cases request <;>
    simp [serve, Context.call, Context.record, same]

/-- The request opens and closes no window. -/
def Request.windowless : Request → Bool
  | .createAdvancedMenu _ | .closeAdvancedMenu _ | .createSimpleMenu _ | .closeSimpleMenu _
  | .createPortraitBox .. | .closePortraitBox _ => false
  | _ => true

/-- Nothing is said that opens or closes a window. -/
def Quiet (said : List Exchange) : Prop :=
  ∀ exchange ∈ said, exchange.request.windowless = true

namespace Talk

universe u v

variable {σ : Type} {α : Type u} {β : Type v}

/-- Ending at once is the end of a talk. -/
@[simp] theorem pure_eq_done (value : α) : (pure value : Talk α) = done value :=
  -- The instance is defined by the constructor.
  rfl

/-- Sequencing is going on with what the first talk ends in. -/
@[simp] theorem bind_eq {α β : Type u} (talk : Talk α) (next : α → Talk β) :
    talk >>= next = talk.bind next :=
  -- The instance is defined by the function.
  rfl

/-- A talk that is over goes on at once. -/
@[simp] theorem done_bind (value : α) (next : α → Talk β) : (done value).bind next = next value :=
  rfl

section

variable [Host σ]

/-- A talk that is over says nothing. -/
@[simp] theorem hold_done (value : α) (cx : Context σ) :
    (done value).hold cx = { value, transcript := [], context := cx } :=
  rfl

/-- A request is served first, and the rest of the talk is held after it. -/
@[simp] theorem hold_ask (asked : Request) (next : asked.Answer → Talk α) (cx : Context σ) :
    (ask asked next).hold cx =
      { value := ((next (asked.serve cx).1).hold (asked.serve cx).2).value
        transcript := ⟨asked, (asked.serve cx).1⟩ ::
          ((next (asked.serve cx).1).hold (asked.serve cx).2).transcript
        context := ((next (asked.serve cx).1).hold (asked.serve cx).2).context } :=
  rfl

/-- Talks that follow on each other are held one after the other. -/
theorem hold_bind (talk : Talk α) (next : α → Talk β) (cx : Context σ) :
    (talk.bind next).hold cx =
      { value := ((next (talk.hold cx).value).hold (talk.hold cx).context).value
        transcript := (talk.hold cx).transcript ++
          ((next (talk.hold cx).value).hold (talk.hold cx).context).transcript
        context := ((next (talk.hold cx).value).hold (talk.hold cx).context).context } := by
  -- The first talk is taken apart request by request, each in the context the last one left.
  induction talk generalizing cx with
  | done value => simp
  | ask asked rest ih => simp [Talk.bind, ih]

/-- Journal and log have no say in a talk: it goes the same way with the same host. -/
theorem hold_deaf (talk : Talk α) {cx other : Context σ} (same : cx.host = other.host) :
    (talk.hold cx).value = (talk.hold other).value ∧
      (talk.hold cx).transcript = (talk.hold other).transcript ∧
      (talk.hold cx).context.host = (talk.hold other).context.host := by
  -- Each answer is the same, so the talk continues alike with hosts that are still the same.
  induction talk generalizing cx other with
  | done value => exact ⟨rfl, rfl, same⟩
  | ask asked next ih =>
    obtain ⟨answer, host⟩ := asked.serve_deaf same
    simp only [hold_ask, answer]
    obtain ⟨value, transcript, host⟩ := ih (asked.serve other).1 host
    exact ⟨value, by rw [transcript], host⟩

end

/-- However the host answers, a talk ends in a value and a transcript with a property. -/
def Always : Talk α → (α → List Exchange → Prop) → Prop
  | done value, post => post value []
  -- Every answer of the right kind is taken into account.
  | ask asked next, post => ∀ answer, (next answer).Always fun value said =>
      post value (⟨asked, answer⟩ :: said)

/-- A talk that is over has a property if its value has it, with nothing said. -/
@[simp] theorem always_done {value : α} {post : α → List Exchange → Prop} :
    (done value).Always post ↔ post value [] :=
  Iff.rfl

/-- A request may be answered in any way. -/
@[simp] theorem always_ask {asked : Request} {next : asked.Answer → Talk α}
    {post : α → List Exchange → Prop} :
    (ask asked next).Always post ↔ ∀ answer, (next answer).Always fun value said =>
      post value (⟨asked, answer⟩ :: said) :=
  Iff.rfl

/-- Every talk comes to its end. -/
theorem always_true (talk : Talk α) : talk.Always fun _ _ => True := by
  induction talk with
  | done value => trivial
  | ask asked next ih => exact ih

/-- What a talk always ends in may be weakened. -/
theorem Always.mono {talk : Talk α} {post weaker : α → List Exchange → Prop}
    (always : talk.Always post) (weaken : ∀ value said, post value said → weaker value said) :
    talk.Always weaker := by
  -- The property is changed at the end of every path, below whatever was said on it.
  induction talk generalizing post weaker with
  | done value => exact weaken value [] always
  | ask asked next ih =>
    intro answer
    exact ih answer (always answer) fun value said => weaken value _

/-- What a talk always ends in may be put together from two properties. -/
theorem Always.and {talk : Talk α} {post other : α → List Exchange → Prop}
    (first : talk.Always post) (second : talk.Always other) :
    talk.Always fun value said => post value said ∧ other value said := by
  -- Both are followed along the same answers.
  induction talk generalizing post other with
  | done value => exact ⟨first, second⟩
  | ask asked next ih => exact fun answer => ih answer (first answer) (second answer)

/-- Talks that follow on each other are taken one after the other. -/
@[simp] theorem always_bind {talk : Talk α} {next : α → Talk β} {post : β → List Exchange → Prop} :
    (talk.bind next).Always post ↔ talk.Always fun value said =>
      (next value).Always fun last more => post last (said ++ more) := by
  -- Each request of the first talk moves to the front of both transcripts.
  induction talk generalizing post with
  | done value => simp
  | ask asked rest ih => simp only [Talk.bind, always_ask, ih, List.cons_append]

/-- What always holds of a talk holds of it with each host. -/
theorem Always.hold [Host σ] {talk : Talk α} {post : α → List Exchange → Prop}
    (always : talk.Always post) (cx : Context σ) :
    post (talk.hold cx).value (talk.hold cx).transcript := by
  -- The host's own answers are among those that were taken into account.
  induction talk generalizing post cx with
  | done value => exact always
  | ask asked next ih => exact ih _ (always _) _

section

variable [Host σ] {pre : σ → Prop} {post : α → σ → Prop}

/-- From a host with the first property, a talk ends in a value and a host with the second. -/
def Leads (pre : σ → Prop) (talk : Talk α) (post : α → σ → Prop) : Prop :=
  ∀ cx : Context σ, pre cx.host → post (talk.hold cx).value (talk.hold cx).context.host

/-- A talk that is over leaves the host as it is. -/
theorem leads_done {value : α} (holds : ∀ host, pre host → post value host) :
    Leads pre (done value) post :=
  fun cx => holds cx.host

/-- A request leads to what its service leads to. -/
theorem leads_request {asked : Request} {post : asked.Answer → σ → Prop}
    (serves : ∀ cx : Context σ, pre cx.host → post (asked.serve cx).1 (asked.serve cx).2.host) :
    Leads pre (request asked) post :=
  -- The talk is over with the answer.
  serves

/-- Talks that follow on each other lead to where the second leads from the end of the first. -/
theorem Leads.bind {talk : Talk α} {next : α → Talk β} {mid : α → σ → Prop} {post : β → σ → Prop}
    (first : Leads pre talk mid) (rest : ∀ value, Leads (mid value) (next value) post) :
    Leads pre (talk.bind next) post := by
  intro cx holds
  -- The second talk is held in the context that the first one left.
  rw [hold_bind]
  exact rest _ _ (first cx holds)

/-- What a talk starts from may tell something that is not about the host. -/
theorem leads_given {talk : Talk α} {fact : Prop} (leads : fact → Leads pre talk post) :
    Leads (fun host => fact ∧ pre host) talk post :=
  fun cx ⟨holds, starts⟩ => leads holds cx starts

/-- What a talk starts from may be strengthened, and what it leads to weakened. -/
theorem Leads.mono {talk : Talk α} {stronger : σ → Prop} {weaker : α → σ → Prop}
    (leads : Leads pre talk post) (before : ∀ host, stronger host → pre host)
    (after : ∀ value host, post value host → weaker value host) : Leads stronger talk weaker :=
  -- The talk itself stays the same.
  fun cx holds => after _ _ (leads cx (before _ holds))

/-- What a talk leads to may be weakened. -/
theorem Leads.weaken {talk : Talk α} {weaker : α → σ → Prop} (leads : Leads pre talk post)
    (after : ∀ value host, post value host → weaker value host) : Leads pre talk weaker :=
  leads.mono (fun _ holds => holds) after

end

end Talk

end DungeonHooks
