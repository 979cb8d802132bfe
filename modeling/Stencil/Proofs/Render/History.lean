import Stencil.Proofs.Render.Simulation

/-! Renders do not depend on what was rendered before them. -/

namespace Stencil

variable {World : Type}

/-- A use of a renderer, or a lookup without one. -/
inductive Use where
  | render (renderer : Renderer) (context : Context)
  | renderTemplate (renderer : Renderer) (template : Template) (context : Context)
  | renderInto (renderer : Renderer) (element : Element) (context : Context)
  | renderBlock (renderer : Renderer) (block : Element) (context : Context)
  | resolveTemplate (renderer : Renderer) (context : Context)
  | resolve (key : TemplateKey)

/-- What a use gives. -/
inductive Yield where
  | nodes (nodes : List Node)
  | element (element : Element)
  | template (template : Template)
deriving DecidableEq

namespace Use

/-- Every use brings its own context. -/
def context : Use → Context
  | render _ context => context
  | renderTemplate _ _ context => context
  | renderInto _ _ context => context
  | renderBlock _ _ context => context
  | resolveTemplate _ context => context
  | resolve _ => ∅

/-- What a use does once its context is in scope. -/
def action (host : Host World) : Use → Render World Yield
  | render renderer _ => do
      let nodes ← renderer.render host
      return .nodes nodes
  | renderTemplate renderer template _ => do
      let nodes ← renderer.renderTemplate host template
      return .nodes nodes
  | renderInto renderer element _ => do
      let filled ← renderer.renderInto host element
      return .element filled
  | renderBlock renderer block _ => do
      let filled ← renderer.renderBlock host block
      return .element filled
  | resolveTemplate renderer _ => do
      let template ← renderer.resolveTemplate host
      return .template template
  | resolve key => do
      let template ← Render.lookUp host key
      return .template template

/-- A use starts in its context, over the cache and the world that are there. -/
def start (use : Use) (scene : Scene World) : Scene World := { scene with context := use.context }

/-- The answer of a use that starts with the cache of a scene. -/
def answer (host : Host World) (use : Use) (scene : Scene World) : Except TemplateError Yield :=
  Render.outcome (use.action host) (use.start scene)

/-- The scene behind some uses, one after the other. -/
def afterAll (host : Host World) : List Use → Scene World → Scene World
  | [], scene => scene
  | use :: rest, scene => afterAll host rest (Render.leaves (use.action host) (use.start scene))

theorem afterAll_append (host : Host World) (first second : List Use) (scene : Scene World) :
    afterAll host (first ++ second) scene = afterAll host second (afterAll host first scene) := by
  induction first generalizing scene with
  | nil => rfl
  | cons use rest inductionHypothesis => exact inductionHypothesis _

section

variable {host : Host World} {keys : TemplateKey → Prop} (steady : host.Steady)
  (apart : TemplateKey.Apart keys) (declared : ∀ key, key.Declared host.fetching → keys key)
include steady apart declared

/-- Every use runs in step over two caches that were filled from the source. -/
theorem uniform_action (use : Use) : Render.Uniform host keys (use.action host) := by
  have closed := Render.closed_uniform steady apart declared
  cases use with
  | render renderer context => exact (closed.render renderer).bind fun nodes => closed.pure _
  | renderTemplate renderer template context =>
      exact (closed.renderWithin renderer _ template).bind fun nodes => closed.pure _
  | renderInto renderer element context =>
      exact (closed.renderInto renderer element).bind fun filled => closed.pure _
  | renderBlock renderer block context =>
      exact (closed.renderBlock renderer block).bind fun filled => closed.pure _
  | resolveTemplate renderer context =>
      exact (closed.resolveTemplate renderer).bind fun template => closed.pure _
  | resolve key => exact (closed.lookUp key).bind fun template => closed.pure _

/-- Uses forget no request. -/
theorem requested_subset_afterAll (uses : List Use) (scene : Scene World) :
    scene.requested ⊆ (afterAll host uses scene).requested := by
  induction uses generalizing scene with
  | nil => exact List.Subset.refl _
  | cons use rest inductionHypothesis =>
      have first := (uniform_action steady apart declared use).remembers (use.start scene)
      exact List.Subset.trans first (inductionHypothesis _)

/-- What was asked is remembered behind the last use, by induction on the uses. -/
theorem consistent_afterAll (uses : List Use) (scene : Scene World)
    (consistent : scene.cache.Consistent host.fetching)
    (asked : ∀ key ∈ (afterAll host uses scene).requested, keys key) :
    (afterAll host uses scene).cache.Consistent host.fetching := by
  induction uses generalizing scene with
  | nil => exact consistent
  | cons use rest inductionHypothesis =>
      have before := requested_subset_afterAll steady apart declared rest
        (Render.leaves (use.action host) (use.start scene))
      have agreed := (uniform_action steady apart declared use).agrees (use.start scene)
        (use.start scene) ⟨rfl, consistent, consistent⟩ fun key held => asked key (before held)
      exact inductionHypothesis _ agreed.consistent_leaves asked

/-- The next use runs in step over the shared cache and over a fresh one. -/
theorem agree_afterAll (uses : List Use) (next : Use) (world fresh : World)
    (asked : ∀ key ∈ (afterAll host (uses ++ [next]) (.fresh world)).requested, keys key) :
    Render.Agree host.fetching
      (next.action host (next.start (afterAll host uses (.fresh world))))
      (next.action host (next.start (.fresh fresh))) := by
  rw [afterAll_append] at asked
  have before := requested_subset_afterAll steady apart declared [next]
    (afterAll host uses (.fresh world))
  have shared := consistent_afterAll steady apart declared uses (.fresh world)
    (Cache.consistent_empty host.fetching) fun key held => asked key (before held)
  apply (uniform_action steady apart declared next).agrees
  · exact ⟨rfl, shared, Cache.consistent_empty host.fetching⟩
  · exact asked

end

/-- Behind any uses of its cache, a use answers as over a fresh one. -/
theorem answer_afterAll (host : Host World) (steady : host.Steady) (uses : List Use) (next : Use)
    (world fresh : World)
    (apart : TemplateKey.Apart fun key => key.Declared host.fetching ∨
      key ∈ (afterAll host (uses ++ [next]) (.fresh world)).requested) :
    next.answer host (afterAll host uses (.fresh world)) = next.answer host (.fresh fresh) := by
  have agreed := agree_afterAll steady apart (fun key found => .inl found) uses next world fresh
    fun key held => .inr held
  exact agreed.outcome_eq

/-- A file that includes a fragment of the other. -/
def sampleOuter : String := "<template><p data-fly-include='/b.html#x'></p></template>"

/-- A file that is included. -/
def sampleInner : String := "<template data-fly-name='x'>seen</template>"

/-- Two files, and a count of the fetches. -/
def sampleHost : Host Nat where
  answering _ invocation := pure invocation.receiver
  fetching path := fun count =>
    (if path = "/a.html" then .ok sampleOuter
      else if path = "/b.html" then .ok sampleInner
      else .error (.notFound path), count + 1)

/-- A context that addresses the sample file. -/
def sampleContext : Context := (∅ : Context).setTemplate "/a.html" ""

/-- A lookup that fails, and one that fills the cache. -/
def sampleUses : List Use := [.resolve ⟨"/c.html", ""⟩, .resolve ⟨"/b.html", "x"⟩]

theorem steady_sampleHost : sampleHost.Steady where
  answering _ _ := steady_pure _
  fetching _ _ _ := rfl

/-- The keys that are declared by the sample or asked for by its uses. -/
def sampleKeys : List TemplateKey := [⟨"/a.html", ""⟩, ⟨"/b.html", "x"⟩, ⟨"/c.html", ""⟩]

theorem mem_sampleKeys_of_parse {path markup : String} {templates : List Template}
    (parsed : Template.parseFile path markup = .ok templates)
    (listed : ∀ template ∈ (Template.parseFile path markup).toOption.getD [],
      template.key ∈ sampleKeys) {template : Template} (member : template ∈ templates) :
    template.key ∈ sampleKeys := by
  rw [parsed] at listed
  exact listed template member

theorem mem_sampleKeys_of_declared {key : TemplateKey}
    (declared : key.Declared sampleHost.fetching) : key ∈ sampleKeys := by
  obtain ⟨template, ⟨count, markup, answered, templates, parsed, member⟩, rfl⟩ := declared
  simp only [sampleHost] at answered
  split at answered
  · rename_i path
    rw [path, ← Except.ok.inj answered] at parsed
    exact mem_sampleKeys_of_parse parsed (by decide +kernel) member
  · split at answered
    · rename_i path
      rw [path, ← Except.ok.inj answered] at parsed
      exact mem_sampleKeys_of_parse parsed (by decide +kernel) member
    · cases answered

/-- A lookup that failed, and one that filled the cache, are forgotten. -/
theorem answer_afterAll_sampleUses :
    (Use.render {} sampleContext).answer sampleHost (afterAll sampleHost sampleUses (.fresh 0)) =
      (Use.render {} sampleContext).answer sampleHost (.fresh 9) := by
  have asked : (afterAll sampleHost (sampleUses ++ [.render {} sampleContext])
      (.fresh 0)).requested ⊆ sampleKeys := by decide +kernel
  apply answer_afterAll sampleHost steady_sampleHost
  intro first second firstKnown secondKnown same
  have firstIn : first ∈ sampleKeys := firstKnown.elim mem_sampleKeys_of_declared (asked ·)
  have secondIn : second ∈ sampleKeys := secondKnown.elim mem_sampleKeys_of_declared (asked ·)
  have apart : ∀ first ∈ sampleKeys, ∀ second ∈ sampleKeys, first.id = second.id →
      first.path = second.path := by decide +kernel
  exact apart first firstIn second secondIn same

end Use

end Stencil
