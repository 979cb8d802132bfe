import Stencil.Proofs.Render.InStep
import Stencil.Proofs.Template.Identity

/-! What a render reads: nothing but the keys that the templates name. -/

namespace Stencil

variable {World : Type}

/-- An expression in a template of a source starts from a key. -/
def Fetching.Reads (fetching : Fetching World) (key : String) : Prop :=
  ∃ template, Cache.Offered fetching template ∧ key ∈ Node.readKeysOf template.content

/-- Two runs that share their cache and their world, which was filled from one source. -/
def Render.Accord.sharing (fetching : Fetching World) : Render.Accord World where
  store left right := left = right ∧ Cache.Sound fetching left.1
  keys _ := True
  excused _ := False

namespace Render

open Accord

variable {host : Host World} {terms : Terms} {forms : terms.Forms}
  (admitted : ∀ template, Cache.Offered host.fetching template → forms.Admits template.content)

include admitted

/-- A lookup in one cache gives one template, which the source offers. -/
theorem inStep_lookUp_sharing (key : TemplateKey) :
    (sharing host.fetching).InStep terms.Alike terms.Alike
      (Same fun template : Template => forms.Admits template.content) (lookUp host key)
      (lookUp host key) := by
  intro left right holds _
  obtain ⟨same, sound⟩ := holds.store
  obtain ⟨sameCache, sameWorld⟩ := Prod.mk.inj same
  have kept := Cache.Sound.resolve sound key left.world
  rw [lookUp_eq, lookUp_eq host key right, leaves_lookUp, leaves_lookUp, ← sameCache, ← sameWorld]
  cases answer : (left.cache.resolve host.fetching key left.world).1.1 with
  | error cause => exact .error
  | ok template =>
      have offered := (kept.1 key.id template (kept.2 template answer)).2
      exact .ok ⟨rfl, admitted template offered⟩ ⟨holds.context, rfl, kept.1⟩

/-- Renders that address the same template run in step over one cache. -/
theorem inStep_render_sharing (renderer : Renderer)
    (finished : ∀ nodes, forms.AllDone nodes → forms.AllDone (renderer.finish nodes)) :
    (sharing host.fetching).InStep terms.Addressed terms.Alike
      (Same fun nodes => ∃ raw, forms.AllDone raw ∧ nodes = renderer.finish raw)
      (renderer.render host) (renderer.render host) := by
  have lookUps := inStep_lookUp_sharing admitted
  have deeper : (sharing host.fetching).InStep terms.Addressed terms.Alike (Same forms.AllDone)
      (renderer.includesWithin host renderer.config.maxIncludeDepth)
      (renderer.includesWithin host renderer.config.maxIncludeDepth) :=
    inStep_includesWithin renderer lookUps finished (.inl rfl)
  apply (inStep_resolveTemplate renderer lookUps).bind
  · exact (closed_remembers host).renderWithin renderer _
  · rintro template _ ⟨rfl, admits⟩
    exact inStep_renderWithin renderer deeper template admits

end Render

/-- Nothing is asked of the form of elements. -/
def Terms.anyForms (terms : Terms) : terms.Forms where
  fit _ := True
  done _ := True
  copied _ _ _ _ := trivial
  prepared _ _ _ _ _ := trivial
  unmarked _ _ := trivial
  inserted _ _ := trivial

/-- A source that holds some files by path, and no resolvers. -/
def Host.holding (files : List (String × String)) : Host Unit where
  answering _ _ := pure .null
  fetching path := pure <|
    match files.lookup path with
    | some markup => .ok markup
    | none => .error (.notFound path)

/-- The templates of some files. -/
def Host.templatesOf (files : List (String × String)) : List Template :=
  files.flatMap fun file => (Template.parseFile file.1 file.2).toOption.getD []

/-- Held files offer no templates but their own. -/
theorem Host.mem_templatesOf_of_offered {files : List (String × String)} {template : Template}
    (offered : Cache.Offered (holding files).fetching template) :
    template ∈ templatesOf files := by
  obtain ⟨_, text, answered, templates, parsed, member⟩ := offered
  cases held : files.lookup template.path with
  | none =>
      simp only [holding, held] at answered
      cases answered
  | some markup =>
      simp only [holding, held] at answered
      obtain ⟨before, after, whole, -⟩ := List.lookup_eq_some_iff.mp held
      have listed : (template.path, text) ∈ files := by
        rw [whole, Except.ok.inj answered]
        simp
      exact List.mem_flatMap.mpr ⟨_, listed, by rw [parsed]; exact member⟩

/-- Held files read no keys but those of their templates. -/
theorem Host.mem_readKeys_of_reads {files : List (String × String)} {key : String}
    (read : (holding files).fetching.Reads key) :
    key ∈ (templatesOf files).flatMap fun template => Node.readKeysOf template.content := by
  obtain ⟨template, offered, inside⟩ := read
  exact List.mem_flatMap.mpr ⟨template, mem_templatesOf_of_offered offered, inside⟩

namespace Directive

/-- The key of a map is no directive, in any case of its letters. -/
def IsForeign (key : String) : Prop := isDirective key.toLower = false

/-- A key without a dash is no directive. -/
theorem isForeign_of_dash_notMem {key : String} (dashless : '-' ∉ key.toList) : IsForeign key := by
  have small := Text.dash_notMem_toLower dashless
  rw [IsForeign, Bool.eq_false_iff]
  intro directive
  obtain ⟨rest, whole⟩ := Text.startsWith_iff.mp directive
  rw [whole] at small
  exact small (List.mem_append_left rest (by decide))

theorem isDirective_of_mem {name : String} (among : name ∈ all) : isDirective name = true := by
  revert name
  decide

/-- A foreign key is no known directive in small letters. -/
theorem IsForeign.notMem {key : String} (foreign : IsForeign key) {names : List String}
    (known : names ⊆ all) : key.toLower ∉ names := by
  intro among
  rw [IsForeign, isDirective_of_mem (known among)] at foreign
  cases foreign

end Directive

namespace Renderer

/-- A key may be in a map without bringing a directive that is evaluated later. -/
def LaysData (key : String) : Prop :=
  key.toLower ∉ [Directive.content, Directive.included, Directive.unwrap]

theorem laysData_of_isForeign {key : String} (foreign : Directive.IsForeign key) : LaysData key :=
  foreign.notMem (by decide)

theorem laysData_of_dash_notMem {key : String} (dashless : '-' ∉ key.toList) : LaysData key :=
  laysData_of_isForeign (Directive.isForeign_of_dash_notMem dashless)

/-- The terms of a source: its templates read what they read, and meet any data. -/
def dataTerms (fetching : Fetching World) : Terms where
  reads := fetching.Reads
  names := LaysData
  withNodes := True
  dashless _ := laysData_of_dash_notMem
  laid _ laid := laid
  visited _ := trivial

/-- What is rendered depends on nothing but the address and the keys that templates read. -/
theorem outcome_render_of_agree (host : Host World) (renderer : Renderer) {cache : Cache}
    (reached : Cache.Reached host.fetching cache) (world : World) {left right : Context}
    (same : ∀ key, key ∈ [Context.templateKey, Context.blockNameKey, Context.codeBasePathKey] ∨
      host.fetching.Reads key → left.get? key = right.get? key)
    (data : ∀ key, host.fetching.Reads key →
      ∀ value, left.get? key = some value → value.Data LaysData True) :
    Render.outcome (renderer.render host) { context := left, cache, world } =
      Render.outcome (renderer.render host) { context := right, cache, world } := by
  have alike : (dataTerms host.fetching).Alike left right :=
    ⟨fun key read => ⟨same key (.inr read), data key read⟩,
      .of_get?_eq fun key among => same key (.inl among)⟩
  have addressed : (dataTerms host.fetching).Addressed left right := by
    refine ⟨alike, ?_⟩
    rw [Context.templateName?, Context.templateName?, Context.templateField?,
      Context.templateField?, same _ (.inl (by simp))]
  have admitted : ∀ template, Cache.Offered host.fetching template →
      (dataTerms host.fetching).anyForms.Admits template.content := fun template offered =>
    ⟨fun key read => ⟨template, offered, read⟩, fun _ _ => trivial⟩
  have step := Render.inStep_render_sharing admitted renderer fun _ _ _ _ => trivial
  have matched := step { context := left, cache, world } { context := right, cache, world }
    ⟨addressed, rfl, reached.sound⟩ fun _ _ => trivial
  exact matched.outcome_eq fun _ excused => excused

/-- A map with one entry to lay over attributes, and a text that no template reads. -/
def laidContext (name text secret : String) : Context :=
  (((∅ : Context).setTemplate "/a.html" "").insert "attrs" (.map ⟨[(name, .string text)]⟩)).insert
    "secret" (.string secret)

theorem get?_laidContext (name text first second : String) {key : String} (other : key ≠ "secret") :
    (laidContext name text first).get? key = (laidContext name text second).get? key := by
  simp only [laidContext, OrderedMap.get?_insert, if_neg other]

/-- A template that lays a map over its element. -/
def laidFiles : List (String × String) :=
  [("/a.html", "<template><p data-fly-attributes='attrs'>x</p></template>")]

theorem eq_attrs_of_reads {key : String} (read : (Host.holding laidFiles).fetching.Reads key) :
    key = "attrs" := by
  have listed : (Host.templatesOf laidFiles).flatMap (fun template =>
      Node.readKeysOf template.content) = ["attrs"] := by decide +kernel
  have member := Host.mem_readKeys_of_reads read
  rw [listed] at member
  exact List.mem_singleton.mp member

theorem secret_unread {key : String}
    (among : key ∈ [Context.templateKey, Context.blockNameKey, Context.codeBasePathKey] ∨
      (Host.holding laidFiles).fetching.Reads key) : key ≠ "secret" := by
  rintro rfl
  rcases among with listed | read
  · exact absurd listed (by decide)
  · exact absurd (eq_attrs_of_reads read) (by decide)

theorem data_laidContext {names : String → Prop} {name : String}
    (dashless : ∀ key : String, '-' ∉ key.toList → names key) (named : names name)
    (text secret key : String) (value : Value)
    (held : (laidContext name text secret).get? key = some value) : value.Data names True := by
  rw [laidContext, OrderedMap.get?_insert] at held
  split at held
  · cases held
    exact .string secret
  · rw [OrderedMap.get?_insert] at held
    split at held
    · cases held
      refine .map (fun entry member => ?_) fun entry member => ?_
      · rw [List.mem_singleton.mp member]
        exact named
      · rw [List.mem_singleton.mp member]
        exact .string text
    · rw [Context.setTemplate, OrderedMap.get?_insert] at held
      split at held
      · cases held
        exact Context.data_templateValue dashless _ _
      · cases held

/-- A text that is laid over the attributes is no expression, even if it looks like one. -/
theorem outcome_render_laidTitle :
    Render.outcome (Renderer.render {} (.holding laidFiles))
        { context := laidContext "title" "$\x7bsecret\x7d" "one", cache := .empty, world := () } =
      Render.outcome (Renderer.render {} (.holding laidFiles))
        { context := laidContext "title" "$\x7bsecret\x7d" "two", cache := .empty,
          world := () } := by
  apply outcome_render_of_agree (.holding laidFiles) {} .empty ()
  · exact fun key among => get?_laidContext _ _ _ _ (secret_unread among)
  · intro key read
    have plain : LaysData "title" := laysData_of_dash_notMem (by decide)
    exact data_laidContext (fun key => laysData_of_dash_notMem) plain _ _ key

/-- A directive that a map lays over an element may read what no template reads. -/
theorem outcome_render_laidContent :
    ¬ ∀ left right : Context,
      (∀ key value, left.get? key = some value → value.Data (fun _ => True) True) →
      (∀ key value, right.get? key = some value → value.Data (fun _ => True) True) →
      (∀ key, key ∈ [Context.templateKey, Context.blockNameKey, Context.codeBasePathKey] ∨
        (Host.holding laidFiles).fetching.Reads key → left.get? key = right.get? key) →
      Render.outcome (Renderer.render {} (.holding laidFiles))
          { context := left, cache := .empty, world := () } =
        Render.outcome (Renderer.render {} (.holding laidFiles))
          { context := right, cache := .empty, world := () } := by
  intro unevaluated
  have data (secret key : String) (value : Value)
      (held : (laidContext "data-fly-content" "secret" secret).get? key = some value) :
      value.Data (fun _ => True) True :=
    data_laidContext (fun _ _ => trivial) trivial "secret" secret key value held
  have same := unevaluated (laidContext "data-fly-content" "secret" "one")
    (laidContext "data-fly-content" "secret" "two") (data "one") (data "two")
    fun key among => get?_laidContext _ _ _ _ (secret_unread among)
  exact absurd same (by decide +kernel)

end Renderer

end Stencil
