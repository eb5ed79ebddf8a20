import ExtensionHost.Proofs.Engine.Agreement

/-!
# Recovery

A module is rolled back on request, or when an invocation failed in the guest and the settings say
so.  Whatever happened to the module by then, it is afterwards what it was when it was loaded, and
nothing that the engine answers about its package tells it from a module that was just loaded.

## Main definitions

* `Operation.Restores`, the operations that roll a module back

## Main results

* `Engine.restores_freshly_loaded`
-/

namespace ExtensionHost

/-- An operation rolls a module of an engine back, which at that point has become `broken`. -/
inductive Operation.Restores (e : Engine) (package : String) : Operation → GuestModule → Prop where
  /-- The module is rolled back on request. -/
  | recover {m : GuestModule} (hm : e.module? package = some m) :
    Restores e package (.recover package) m
  /-- An invocation entered the guest and failed. -/
  | failed {now : Instant} {extension : String} {context : Context} {client : Client}
    {m : GuestModule} {function : String} {ticks : Nat} {error : ExtensionError}
    (henters : e.Enters now package extension context m function ticks)
    (hfails : (m.run client.adapter client.state function ticks).1 = .error error)
    (hauto : e.config.autoRecover = true) :
    Restores e package (.invoke now package extension context client)
      (m.run client.adapter client.state function ticks).2.1

namespace Sample

theorem limits_greeting (e : Engine) : (e.performAll greeting).limits = e.limits := by
  have hnamed : (Operation.invoke ⟨0⟩ "sample" "greet" .unbounded client).package?
      = some "sample" := rfl
  exact (e.changesOnly_perform hnamed).limits

end Sample

namespace Engine

theorem module?_restoreModule {e : Engine} {package : String} {m loaded : GuestModule}
    (h : m.restore = .ok loaded) :
    (e.restoreModule package m).2.module? package = some loaded := by
  rw [restoreModule, h]
  show (e.putModule package loaded).module? package = some loaded
  rw [module?_putModule, if_pos rfl]

/-- The module that is rolled back continues the one that was loaded. -/
theorem continues_of_restores {e fresh : Engine} (h : e.Continues fresh) {package : String}
    {op : Operation} {broken loaded : GuestModule} (hloaded : fresh.module? package = some loaded)
    (hop : op.Restores e package broken) : broken.Continues loaded := by
  have continues_of_module? : ∀ {m}, e.module? package = some m → m.Continues loaded := by
    intro m hm
    obtain ⟨loaded', hloaded', hcontinues⟩ := h.modules package m hm
    rw [hloaded] at hloaded'
    cases hloaded'
    exact hcontinues
  cases hop with
  | recover hm => exact continues_of_module? hm
  | failed henters => exact (continues_of_module? henters.module?).run _ _ _ _

/-- After a roll-back that succeeds, the engine holds what the roll-back yields. -/
theorem module?_perform_of_restores {e : Engine} {package : String} {op : Operation}
    {broken loaded : GuestModule} (hop : op.Restores e package broken)
    (h : broken.restore = .ok loaded) : (e.perform op).2.module? package = some loaded := by
  cases hop with
  | recover hm =>
    show (e.recover package).2.module? package = some loaded
    rw [recover, hm]
    exact module?_restoreModule h
  | @failed now extension context client m function ticks error henters hfails hauto =>
    show (e.invoke now package extension context client.adapter client.state).engine.module? package
      = some loaded
    obtain ⟨f, hinvoke⟩ := invoke_of_enters henters client.adapter client.state
    have hcounted : (e.count .countInvocation).config.autoRecover = true := hauto
    rw [hinvoke]
    show ((e.count .countInvocation).runModule package m function ticks client.adapter
      client.state).2.1.module? package = some loaded
    rw [engine_runModule_of_restored hfails hcounted]
    exact module?_restoreModule h

/-- After an invocation that enters the guest and is not followed by a roll-back, the engine holds
the module as the run has left it. -/
theorem module?_perform_of_kept {e : Engine} {now : Instant} {package extension : String}
    {context : Context} {client : Client} {m : GuestModule} {function : String} {ticks : Nat}
    (henters : e.Enters now package extension context m function ticks)
    (hnot : ¬ ∃ broken,
      (Operation.invoke now package extension context client).Restores e package broken) :
    (e.perform (.invoke now package extension context client)).2.module? package
      = some (m.run client.adapter client.state function ticks).2.1 := by
  have hkept : (m.run client.adapter client.state function ticks).1 = .ok () ∨
      (e.count .countInvocation).config.autoRecover = false := by
    cases hr : (m.run client.adapter client.state function ticks).1 with
    | ok u => exact Or.inl rfl
    | error error =>
      exact Or.inr (Bool.not_eq_true _ ▸ fun hauto => hnot ⟨_, .failed henters hr hauto⟩)
  obtain ⟨f, hinvoke⟩ := invoke_of_enters henters client.adapter client.state
  show (e.invoke now package extension context client.adapter client.state).engine.module?
    package = _
  rw [hinvoke]
  show ((e.count .countInvocation).runModule package m function ticks client.adapter
    client.state).2.1.module? package = _
  rw [engine_runModule_of_kept hkept, module?_putModule, if_pos rfl]

/-- **Restoring is loading again.**  Take a fresh engine, any module of it, and any operations.  An
operation that then rolls the module back succeeds in doing so and leaves the engine with the module
as it was loaded: with its memory, its globals, its exports and its extensions, one staging buffer
of which nothing was handed out, and no refusal remembered.  From then on the engine answers about
the package as the fresh engine does under the same limits. -/
theorem restores_freshly_loaded {fresh : Engine} (hfresh : fresh.IsFresh) {package : String}
    {loaded : GuestModule} (hloaded : fresh.module? package = some loaded) (ops : List Operation)
    {op : Operation} {broken : GuestModule}
    (hop : op.Restores (fresh.performAll ops) package broken) :
    broken.restore = .ok loaded ∧
      ((fresh.performAll ops).perform op).2.module? package = some loaded ∧
      (∃ names, GuestModule.load package names loaded.program loaded.config = .ok loaded) ∧
      (∃ base, loaded.guest.pool.buffers = [⟨base, loaded.config.preallocatedBufferSize, 0⟩]) ∧
      loaded.guest.growthRefused = false ∧
      ∀ later, ((fresh.performAll ops).perform op).2.answersOn package later
        = (fresh.setLimits (fresh.performAll ops).limits).answersOn package later := by
  have hcontinues := (Continues.refl hfresh).performAll hfresh ops
  obtain ⟨hisLoaded, hpackage, -⟩ := hfresh.isLoaded hloaded
  have hrestore : broken.restore = .ok loaded :=
    hisLoaded.restore_eq (continues_of_restores hcontinues hloaded hop).comesFrom
  have hafter := module?_perform_of_restores hop hrestore
  have hnamed : op.package? = some package := by cases hop <;> rfl
  have hchanges := changesOnly_perform (fresh.performAll ops) hnamed
  have hagrees : Agrees package ((fresh.performAll ops).perform op).2
      (fresh.setLimits (fresh.performAll ops).limits) :=
    ⟨hchanges.config.trans hcontinues.config, hchanges.limits, hafter.trans hloaded.symm⟩
  refine ⟨hrestore, hafter, ?_, hisLoaded.prepared.buffers, hisLoaded.prepared.not_refused,
    hagrees.answersOn_eq⟩
  obtain ⟨names, hload⟩ := hisLoaded.load
  exact ⟨names, hpackage ▸ hload⟩

/-- A guest that has got a second buffer runs for ever, and is rolled back to one buffer. -/
theorem restores_freshly_loaded_sample :
    let broken := (Sample.greetedModule.run Sample.client.adapter Sample.client.state "linger"
      unboundedTicks).2.1
    broken.guest.pool ≠ Sample.module.guest.pool ∧ broken.restore = .ok Sample.module := by
  refine ⟨by decide +kernel, ?_⟩
  have hentry : Sample.greetedModule.entry "linger" = .ok "linger" := by decide +kernel
  have henters := Sample.enters Sample.module?_greeted (Sample.limits_greeting _) hentry
  have hfails : (Sample.greetedModule.run Sample.client.adapter Sample.client.state "linger"
      unboundedTicks).1 = .error .deadlineExceeded := by decide +kernel
  exact (restores_freshly_loaded Sample.isFresh_engine Sample.module?_engine Sample.greeting
    (.failed henters hfails (by decide +kernel))).1

end Engine

end ExtensionHost
