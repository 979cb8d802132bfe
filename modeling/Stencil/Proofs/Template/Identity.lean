import Stencil.Proofs.Template.Cached

/-! Which template a lookup answers with, where addresses may share an identifier. -/

namespace Stencil

/-- A template is from the file of a key, and has its name in any case. -/
structure Template.Addressed (template : Template) (key : TemplateKey) : Prop where
  path : template.path = key.path
  name : Text.lowerCase template.name = Text.lowerCase key.name

namespace Cache

variable {World : Type}

/-- A cache that lookups over a source in any states lead to. -/
inductive Reached (fetching : Fetching World) : Cache → Prop
  | empty : Reached fetching .empty
  | resolve {cache : Cache} (reached : Reached fetching cache) (key : TemplateKey) (world : World) :
      Reached fetching (cache.resolve fetching key world).1.2

/-- In some state the source answers for the file of a template with markup that holds it. -/
def Offered (fetching : Fetching World) (template : Template) : Prop :=
  ∃ world markup, (fetching template.path world).1 = .ok markup ∧
    template.InFile template.path markup

/-- Every cached template is held under its own identifier, and the source offered it. -/
def Sound (fetching : Fetching World) (cache : Cache) : Prop :=
  ∀ id template, cache.find? id = some template → template.id = id ∧ Offered fetching template

/-- An empty cache holds nothing else. -/
theorem sound_empty (fetching : Fetching World) : Sound fetching .empty := by
  intro id template found
  simp at found

/-- A registration of an answer of the source keeps a cache sound. -/
theorem Sound.register {fetching : Fetching World} {cache : Cache} (sound : Sound fetching cache)
    {path markup : String} {templates : List Template} {world : World}
    (answered : (fetching path world).1 = .ok markup)
    (parsed : Template.parseFile path markup = .ok templates) :
    Sound fetching (cache.register path templates) := by
  intro id template found
  rw [find?_register] at found
  rcases Option.or_eq_some_iff.mp found with held | ⟨-, new⟩
  · exact sound id template held
  · have inFile : template.InFile path markup := ⟨templates, parsed, List.mem_of_find?_eq_some new⟩
    have same := List.find?_some new
    refine ⟨of_decide_eq_true same, world, markup, ?_, ?_⟩
    · rw [inFile.path_eq]
      exact answered
    · rw [inFile.path_eq]
      exact inFile

/-- One lookup keeps a cache sound, and its answer is held by the cache that it leaves. -/
theorem Sound.resolve {fetching : Fetching World} {cache : Cache} (sound : Sound fetching cache)
    (key : TemplateKey) (world : World) :
    Sound fetching (cache.resolve fetching key world).1.2 ∧
      ∀ template, (cache.resolve fetching key world).1.1 = .ok template →
        (cache.resolve fetching key world).1.2.find? key.id = some template := by
  rcases resolve_cases fetching key cache world with
    ⟨held, found, result⟩ | ⟨-, -, result⟩ | ⟨-, -, result⟩
  · rw [result]
    refine ⟨sound, fun template answered => ?_⟩
    rw [found, Except.ok.inj answered]
  · rw [result]
    exact ⟨sound, fun template answered => by cases answered⟩
  · rw [result]
    refine ⟨?_, fun template answered => find?_of_receive answered⟩
    rcases receive_cases cache key (fetching key.path world).1 with
      ⟨cause, -, received⟩ | ⟨markup, cause, -, -, received⟩ |
        ⟨markup, templates, answered, parsed, received⟩
    · rw [received]
      exact sound
    · rw [received]
      exact sound
    · rw [received]
      exact sound.register answered parsed

/-- Lookups cache templates of the source only. -/
theorem Reached.sound {fetching : Fetching World} {cache : Cache}
    (reached : Reached fetching cache) : Sound fetching cache := by
  induction reached with
  | empty => exact sound_empty fetching
  | resolve _ key world inductionHypothesis => exact (inductionHypothesis.resolve key world).1

/-- After a first lookup of its own address, an offered template is cached. -/
theorem Offered.find?_resolve {fetching : Fetching World} {template : Template}
    (offered : Offered fetching template) :
    ∃ world, (empty.resolve fetching template.key world).1.2.find? template.id =
      some template := by
  obtain ⟨world, markup, answered, inFile⟩ := offered
  obtain ⟨templates, parsed, member⟩ := inFile
  refine ⟨world, ?_⟩
  have found : templates.find? (·.id = template.id) = some template := by
    cases search : templates.find? (·.id = template.id) with
    | none =>
        have absent := List.find?_eq_none.mp search template member
        simp at absent
    | some other =>
        have same : other.id = template.id := by
          have here := List.find?_some search
          exact of_decide_eq_true here
        rw [Template.eq_of_id_eq (Template.nodup_ids_of_parseFile parsed)
          (List.mem_of_find?_eq_some search) member same]
  have received : empty.receive template.key (.ok markup) =
      ((empty.register template.path templates).answer template.key,
        empty.register template.path templates) := by
    simp only [receive, Template.key, parsed]
  have fetched : (fetching template.key.path world).1 = .ok markup := answered
  rw [resolve_empty, fetched, received, find?_register, find?_empty, Option.none_or, found]

/-- A key gets its own template after every history exactly if no other shares its identifier. -/
theorem resolve_addressed_iff (fetching : Fetching World) (key : TemplateKey) :
    (∀ cache world template, Reached fetching cache →
      (cache.resolve fetching key world).1.1 = .ok template →
        Offered fetching template ∧ template.Addressed key) ↔
    ∀ template, Offered fetching template → template.id = key.id → template.Addressed key := by
  constructor
  · intro addressed template offered same
    obtain ⟨world, held⟩ := offered.find?_resolve
    have reached : Reached fetching (empty.resolve fetching template.key world).1.2 :=
      Reached.empty.resolve template.key world
    rw [same] at held
    -- Behind a lookup of the other template, the shared identifier is a hit.
    have hit : ((empty.resolve fetching template.key world).1.2.resolve fetching key world).1.1 =
        .ok template := by
      rcases resolve_cases fetching key _ world with
        ⟨found, here, result⟩ | ⟨missing, -, -⟩ | ⟨missing, -, -⟩
      · rw [held] at here
        rw [result, Option.some.inj here]
      · rw [held] at missing
        cases missing
      · rw [held] at missing
        cases missing
    exact (addressed _ world template reached hit).2
  · intro apart cache world template reached answered
    have step := reached.sound.resolve key world
    have held := step.2 template answered
    have identified := step.1 key.id template held
    exact ⟨identified.2, apart template identified.2 identified.1⟩

/-- Two files whose paths differ in one mark. -/
def markedFiles : Fetching Unit := fun path =>
  pure (.ok (if path = "/a-b.html" then "<template>one</template>" else "<template>two</template>"))

/-- The template of one file is answered for the other file once it is cached. -/
theorem resolve_markedFiles :
    ¬ ∀ cache template, Reached markedFiles cache →
      (cache.resolve markedFiles ⟨"/a/b.html", ""⟩ ()).1.1 = .ok template →
        template.Addressed ⟨"/a/b.html", ""⟩ := by
  intro addressed
  have reached : Reached markedFiles (empty.resolve markedFiles ⟨"/a-b.html", ""⟩ ()).1.2 :=
    Reached.empty.resolve ⟨"/a-b.html", ""⟩ ()
  have answered : ((empty.resolve markedFiles ⟨"/a-b.html", ""⟩ ()).1.2.resolve markedFiles
      ⟨"/a/b.html", ""⟩ ()).1.1 =
        .ok ⟨"faintly-template--a-b-html-", "/a-b.html", "", [.text "one"]⟩ := by
    decide +kernel
  have path := (addressed _ _ reached answered).path
  exact absurd path (by decide)

end Cache

end Stencil
