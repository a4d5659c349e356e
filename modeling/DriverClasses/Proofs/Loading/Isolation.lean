import DriverClasses.Proofs.Loading.Alike

/-!
# What a context depends on

What a context answers depends on what is done to the contexts of its line, and on nothing else.  An
operation on the line gives like answers on forests that are alike along it, and leaves them alike
(`Alike.agrees`, `Alike.performed`); one off the line leaves a forest like the one before
(`alike_of_bearsOn_eq_false`).  So a run can do without the operations off the line
(`seen_on_line`).
-/

namespace DriverClasses.Loading

open DriverClasses.ClassFile DriverClasses.Text DriverClasses.Files

/-! ### What an operation is about -/

namespace Operation

/-- The operation adds no source to a context off the line, and loads no class in one. -/
def bearsOn (line : List Nat) : Operation → Bool
  | addLocation id _ | addSource id _ | load _ id _ => line.contains id
  | create _ _ _ | isLoaded _ _ | loadedNames _ | locations _ => true

/-- The operation is on the context, or makes one. -/
def concerns (id : Nat) : Operation → Bool
  | create _ _ _ => true
  | addLocation i _ | addSource i _ | isLoaded i _ | loadedNames i | locations i
  | load _ i _ => i == id

theorem bearsOn_of_concerns {line : List Nat} {id : Nat} (hid : id ∈ line) {op : Operation}
    (h : op.concerns id = true) : op.bearsOn line = true := by
  cases op <;> simp_all [concerns, bearsOn]

end Operation

namespace Forest

/-- What is answered to the operations of a run that concern a context, without serial numbers, and
the questions that are put to sources meanwhile. -/
def seen (f : Forest) (id : Nat) : List Operation → List (Answer × List Consultation)
  | [] => []
  | op :: ops =>
    if op.concerns id then
      ((f.perform op).1.unnumbered, f.asks op) :: (f.perform op).2.seen id ops
    else (f.perform op).2.seen id ops

/-! ### Operations on forests that are alike -/

/-- Like answers, like forests and the same questions. -/
structure Agrees (line : List Nat) (f g : Forest) (op : Operation) : Prop where
  answer_eq : (g.perform op).1.unnumbered = (f.perform op).1.unnumbered
  asks_eq : g.asks op = f.asks op
  alike : Alike line (f.perform op).2 (g.perform op).2

theorem asks_of_consultations {f g : Forest} {op : Operation} {more : List Consultation}
    (hperform : (f.perform op).2 = g) (hg : g.consultations = f.consultations ++ more) :
    f.asks op = more := by
  unfold asks
  rw [hperform, hg, List.drop_left]

theorem asks_of_load {f : Forest} {files : FileTree} {id : Nat} {name : String}
    {result : LoadResult} {g : Forest} {more : List Consultation}
    (hload : f.load files id name = (result, g))
    (hg : g.consultations = f.consultations ++ more) : f.asks (.load files id name) = more :=
  asks_of_consultations (by simp only [perform, hload]) hg

namespace Alike

variable {line : List Nat} {f g : Forest} {id : Nat} {name : String}

theorem agrees_load_of_resident (h : Alike line f g) {own own' : LoadedClass}
    (hown : f.resident? id name = some own) (hown' : g.resident? id name = some own')
    (heq : own'.unnumbered = own.unnumbered) (files : FileTree) :
    Agrees line f g (.load files id name) := by
  have hf := load_of_resident hown files
  have hg := load_of_resident hown' files
  refine ⟨?_, ?_, ?_⟩
  · simp [perform, hf, hg, Answer.unnumbered, LoadResult.unnumbered, heq]
  · rw [asks_of_load hf (List.append_nil _).symm, asks_of_load hg (List.append_nil _).symm]
  · simpa only [perform, hf, hg] using h

theorem agrees_load_of_not_resident (h : Alike line f g) (hid : id ∈ line)
    (hf : f.resident? id name = none) (hg : g.resident? id name = none) (files : FileTree) :
    Agrees line f g (.load files id name) := by
  have hfload := load_of_not_resident hf files
  have hgload := load_of_not_resident hg files
  have hvain : ∀ error, f.load files id name = (.failed error, f) →
      g.load files id name = (.failed error, g) → Agrees line f g (.load files id name) := by
    intro error hf hg
    refine ⟨by simp only [perform, hf, hg], ?_, by simpa only [perform, hf, hg] using h⟩
    rw [asks_of_load hf (List.append_nil _).symm, asks_of_load hg (List.append_nil _).symm]
  by_cases hname : isBinaryName name = true
  · rw [if_pos hname] at hfload hgload
    cases hc : f.context? id with
    | none =>
      rw [hc] at hfload
      rw [h.context?_eq_none hc] at hgload
      exact hvain _ hfload hgload
    | some c =>
      obtain ⟨d, hd, hcd⟩ := h.exists_context hid hc
      -- The two contexts differ in their caches at most.
      have hsame : d.id = c.id ∧ d.policy = c.policy ∧ d.sources = c.sources := by
        simp only [Context.unnumbered, Context.mk.injEq] at hcd
        exact ⟨hcd.1, hcd.2.2.1, hcd.2.2.2.1⟩
      rw [hc] at hfload
      rw [hd] at hgload
      simp only [scanContext, hsame.1, hsame.2.1, hsame.2.2] at hfload hgload
      cases hscan : scan files c.policy name c.sources with
      | mk scanEnd asked =>
        simp only [hscan] at hfload hgload
        cases scanEnd with
        | failed error =>
          refine ⟨by simp only [perform, hfload, hgload], ?_, ?_⟩
          · rw [asks_of_load hfload rfl, asks_of_load hgload rfl]
          · simp only [perform, hfload, hgload]
            exact h.of_contexts rfl rfl
        | crashed reason =>
          refine ⟨by simp only [perform, hfload, hgload], ?_, ?_⟩
          · rw [asks_of_load hfload rfl, asks_of_load hgload rfl]
          · simp only [perform, hfload, hgload]
            exact h.of_contexts rfl rfl
        | linked origin header bytes =>
          refine ⟨?_, ?_, ?_⟩
          · simp only [perform, hfload, hgload, newClass, Answer.unnumbered,
              LoadResult.unnumbered, LoadedClass.unnumbered]
          · rw [asks_of_load hfload rfl, asks_of_load hgload rfl]
          · simp only [perform, hfload, hgload]
            have hown : (g.newClass c.id origin header bytes).1.unnumbered
                = (f.newClass c.id origin header bytes).1.unnumbered := rfl
            exact (h.store c.id name hown).of_contexts rfl rfl
  · rw [if_neg hname] at hfload hgload
    exact hvain _ hfload hgload

theorem agrees_load (h : Alike line f g) (hid : id ∈ line) (hline : ∀ i ∈ f.line id, i ∈ line)
    (files : FileTree) (name : String) : Agrees line f g (.load files id name) := by
  have hres := h.resident?_eq hline name
  cases hf : f.resident? id name with
  | none =>
    rw [hf, Option.map_none, Option.map_eq_none_iff] at hres
    exact h.agrees_load_of_not_resident hid hf hres files
  | some own =>
    rw [hf, Option.map_some, Option.map_eq_some_iff] at hres
    obtain ⟨own', hg, heq⟩ := hres
    exact h.agrees_load_of_resident hf hg heq files

/-- An operation that changes nothing asks nothing. -/
theorem agrees_of_unchanged (h : Alike line f g) {op : Operation}
    (hf : (f.perform op).2 = f) (hg : (g.perform op).2 = g)
    (hanswer : (g.perform op).1.unnumbered = (f.perform op).1.unnumbered) :
    Agrees line f g op := by
  refine ⟨hanswer, ?_, by rwa [hf, hg]⟩
  rw [asks_of_consultations hf (List.append_nil _).symm,
    asks_of_consultations hg (List.append_nil _).symm]

theorem agrees_create (h : Alike line f g) (parent : Option Nat) (policy : LinkPolicy)
    (raws : List String) : Agrees line f g (.create parent policy raws) := by
  have hadmits : g.admits parent = f.admits parent := by
    unfold admits
    simp only [h.isSome_eq]
  have hnext : g.nextId = f.nextId := by
    unfold nextId
    rw [h.length_eq]
  by_cases hparent : f.admits parent = true
  · cases hsources : raws.mapM sourceOf with
    | error error =>
      refine h.agrees_of_unchanged ?_ ?_ ?_ <;>
        simp [perform, hadmits, hparent, create, hsources, bind, Except.bind]
    | ok sources =>
      have hcreate : ∀ k : Forest, k.admits parent = true →
          k.perform (.create parent policy raws) = (.created k.nextId,
            { k with
              contexts := k.contexts ++
                [{ id := k.nextId, policy, sources, cache := []
                   ancestors := (parent.map fun p => p :: k.ancestors p).getD [] }] }) := by
        intro k hk
        simp only [perform, hk, if_true, create, hsources, bind, Except.bind, pure, Except.pure]
        cases parent <;> rfl
      have hf := hcreate f hparent
      have hg := hcreate g (hadmits ▸ hparent)
      refine ⟨?_, ?_, ?_⟩
      · rw [hf, hg, hnext]
      · rw [asks_of_consultations (congrArg Prod.snd hf) (List.append_nil _).symm,
          asks_of_consultations (congrArg Prod.snd hg) (List.append_nil _).symm]
      · rw [hf, hg]
        simp only [hnext, h.ancestors_eq]
        exact h.append _
  · refine h.agrees_of_unchanged ?_ ?_ ?_ <;> simp [perform, hadmits, hparent]

theorem agrees_addSource (h : Alike line f g) (id : Nat) (source : ClassSource) :
    Agrees line f g (.addSource id source) := by
  refine ⟨rfl, ?_, h.addSource id source⟩
  rw [asks_of_consultations (f := f) rfl (List.append_nil _).symm,
    asks_of_consultations (f := g) rfl (List.append_nil _).symm]

theorem agrees_addLocation (h : Alike line f g) (id : Nat) (raw : String) :
    Agrees line f g (.addLocation id raw) := by
  cases hsource : sourceOf raw with
  | error error =>
    refine h.agrees_of_unchanged ?_ ?_ ?_ <;> simp [perform, addLocation, hsource, Except.map]
  | ok source =>
    have hperform : ∀ k : Forest,
        k.perform (.addLocation id raw) = k.perform (.addSource id source) := by
      intro k
      simp [perform, addLocation, hsource, Except.map]
    have hsame := h.agrees_addSource id source
    refine ⟨?_, ?_, ?_⟩
    · rw [hperform, hperform]
      exact hsame.answer_eq
    · unfold asks
      rw [hperform, hperform]
      exact hsame.asks_eq
    · rw [hperform, hperform]
      exact hsame.alike

/-- A view of a context that does not look at serial numbers. -/
theorem map_context?_eq {α : Type} (h : Alike line f g) (hid : id ∈ line) (view : Context → α)
    (hview : ∀ c : Context, view c.unnumbered = view c) :
    (g.context? id).map view = (f.context? id).map view := by
  have hmap : ∀ k : Forest, (k.context? id).map view
      = ((k.context? id).map (·.unnumbered)).map view := by
    intro k
    rw [Option.map_map]
    exact congrArg (fun v => (k.context? id).map v) (funext fun c => (hview c).symm)
  rw [hmap, hmap, h.context_eq id hid]

end Alike

/-! ### Runs -/

/-- The line of a context in a forest that the run leads to holds the lines of its contexts. -/
theorem WellFormed.mem_line_of_mem {f : Forest} (hf : f.WellFormed) (ops : List Operation)
    {id i j : Nat} (hi : i ∈ (f.after ops).line id) (hj : j ∈ f.line i) :
    j ∈ (f.after ops).line id := by
  have hafter := hf.after ops
  rcases List.mem_cons.mp hj with rfl | hj
  · exact hi
  cases hc : f.context? i with
  | none => rw [ancestors_of_context?_none hc] at hj; simp at hj
  | some c =>
    rw [← (extends_after f ops).ancestors_eq (Option.isSome_of_eq_some hc)] at hj
    rcases List.mem_cons.mp hi with rfl | hi
    · exact List.mem_cons_of_mem _ hj
    · exact List.mem_cons_of_mem _ (hafter.ancestors_trans hi hj)

/-- What a forest answers about a context on the line, one that is alike answers too. -/
theorem Alike.agrees {line : List Nat} {f g : Forest} (h : Alike line f g)
    (hline : ∀ i ∈ line, ∀ j ∈ f.line i, j ∈ line) {id : Nat} (hid : id ∈ line) {op : Operation}
    (hop : op.concerns id = true) : Agrees line f g op := by
  cases op with
  | create parent policy raws => exact h.agrees_create parent policy raws
  | addLocation i raw => exact h.agrees_addLocation i raw
  | addSource i source => exact h.agrees_addSource i source
  | load files i name =>
    have hi : i = id := by simpa [Operation.concerns] using hop
    subst hi
    exact h.agrees_load hid (hline i hid) files name
  | isLoaded i name =>
    have hi : i = id := by simpa [Operation.concerns] using hop
    subst hi
    exact h.agrees_of_unchanged rfl rfl (congrArg Answer.cached (h.cached?_eq hid name))
  | loadedNames i =>
    have hi : i = id := by simpa [Operation.concerns] using hop
    subst hi
    refine h.agrees_of_unchanged rfl rfl (congrArg Answer.texts ?_)
    rw [h.map_context?_eq hid _ Context.loadedNames_unnumbered]
  | locations i =>
    have hi : i = id := by simpa [Operation.concerns] using hop
    subst hi
    refine h.agrees_of_unchanged rfl rfl (congrArg Answer.texts ?_)
    rw [h.map_context?_eq hid Context.locations fun c => rfl]

theorem Alike.performed {line : List Nat} {f g : Forest} (h : Alike line f g)
    (hline : ∀ i ∈ line, ∀ j ∈ f.line i, j ∈ line) {op : Operation}
    (hop : op.bearsOn line = true) : Alike line (f.perform op).2 (g.perform op).2 := by
  cases op with
  | create parent policy raws => exact (h.agrees_create parent policy raws).alike
  | addLocation i raw => exact (h.agrees_addLocation i raw).alike
  | addSource i source => exact (h.agrees_addSource i source).alike
  | load files i name =>
    have hi : i ∈ line := by simpa [Operation.bearsOn] using hop
    exact (h.agrees_load hi (hline i hi) files name).alike
  | isLoaded i name => exact h
  | loadedNames i => exact h
  | locations i => exact h

theorem alike_load_of_not_mem {line : List Nat} (f : Forest) (files : FileTree) {id : Nat}
    (name : String) (hoff : id ∉ line) : Alike line f (f.load files id name).2 := by
  rcases f.load_cases files id name with ⟨h, -, hload⟩ |
    ⟨c, position, s, header, bytes, hfinds, hload⟩ | ⟨_, _, -, hload⟩ <;> rw [hload]
  · exact .refl line f
  · have hc : c.id ∉ line := by rwa [id_of_context? hfinds.context]
    have hstored : Alike line f (f.store c.id name (f.handle c s header bytes)) :=
      .modify_of_not_mem f hc (fun d => rfl) fun d => rfl
    exact hstored.of_contexts rfl rfl
  · exact (Alike.refl line f).of_contexts rfl rfl

/-- What is done off the line makes no difference on it. -/
theorem alike_of_bearsOn_eq_false {line : List Nat} (f : Forest) {op : Operation}
    (hop : op.bearsOn line = false) : Alike line f (f.perform op).2 := by
  have hadd : ∀ {i : Nat} (source : ClassSource), i ∉ line →
      Alike line f (f.addSource i source) := fun source hi =>
    .modify_of_not_mem f hi (fun c => rfl) fun c => rfl
  cases op with
  | addLocation i raw =>
    have hi : i ∉ line := by simpa [Operation.bearsOn] using hop
    cases hsource : sourceOf raw with
    | error error => simpa [perform, addLocation, hsource, Except.map] using .refl line f
    | ok source => simpa [perform, addLocation, hsource, Except.map] using hadd source hi
  | addSource i source => exact hadd source (by simpa [Operation.bearsOn] using hop)
  | load files i name =>
    exact f.alike_load_of_not_mem files name (by simpa [Operation.bearsOn] using hop)
  | create parent policy raws => simp [Operation.bearsOn] at hop
  | isLoaded i name => simp [Operation.bearsOn] at hop
  | loadedNames i => simp [Operation.bearsOn] at hop
  | locations i => simp [Operation.bearsOn] at hop


/-- A query of another context changes nothing, and the rest is off the line of an isolated one. -/
theorem alike_of_concerns_eq_false (f : Forest) {id : Nat} {op : Operation}
    (hop : op.concerns id = false) : Alike [id] f (f.perform op).2 := by
  cases hbears : op.bearsOn [id] with
  | false => exact f.alike_of_bearsOn_eq_false hbears
  | true =>
    cases op with
    | create parent policy raws => simp [Operation.concerns] at hop
    | isLoaded i name => exact .refl [id] f
    | loadedNames i => exact .refl [id] f
    | locations i => exact .refl [id] f
    | addLocation i raw => simp_all [Operation.concerns, Operation.bearsOn]
    | addSource i source => simp_all [Operation.concerns, Operation.bearsOn]
    | load files i name => simp_all [Operation.concerns, Operation.bearsOn]

/-- A run can do without operations that leave forests alike. -/
theorem seen_filter {line : List Nat} {id : Nat} {keep : Operation → Bool}
    (hkept : ∀ op, keep op = true → op.bearsOn line = true)
    (hdropped : ∀ op, keep op = false →
      op.concerns id = false ∧ ∀ f : Forest, Alike line f (f.perform op).2)
    (ops : List Operation) {f g : Forest} (hf : f.WellFormed) (h : Alike line f g)
    (hlast : (f.after ops).line id = line) : g.seen id (ops.filter keep) = f.seen id ops := by
  induction ops generalizing f g with
  | nil => rfl
  | cons op ops ih =>
    have hid : id ∈ line := hlast ▸ List.mem_cons_self
    have hline : ∀ i ∈ line, ∀ j ∈ f.line i, j ∈ line := by
      intro i hi j hj
      subst hlast
      exact hf.mem_line_of_mem (op :: ops) hi hj
    have hstep : (f.perform op).2.WellFormed := hf.change (change_perform f op)
    rw [after_cons] at hlast
    cases hop : keep op with
    | true =>
      have hperform := h.performed hline (hkept op hop)
      rw [List.filter_cons_of_pos hop, seen, seen, ih hstep hperform hlast]
      by_cases hconcerns : op.concerns id = true
      · have hagrees := h.agrees hline hid hconcerns
        rw [if_pos hconcerns, if_pos hconcerns, hagrees.answer_eq, hagrees.asks_eq]
      · rw [if_neg hconcerns, if_neg hconcerns]
    | false =>
      obtain ⟨hconcerns, halike⟩ := hdropped op hop
      rw [List.filter_cons_of_neg (by simp [hop]), seen, if_neg (by simp [hconcerns])]
      exact ih hstep ((halike f).symm.trans h) hlast

/-- A load changes no context but its own. -/
theorem context?_load_of_ne (f : Forest) (files : FileTree) {id j : Nat} (name : String)
    (hj : j ≠ id) : (f.load files id name).2.context? j = f.context? j := by
  rcases f.load_cases files id name with ⟨h, -, hload⟩ |
    ⟨c, position, s, header, bytes, hfinds, hload⟩ | ⟨_, _, -, hload⟩ <;> rw [hload]
  · have hc : j ≠ c.id := by rwa [id_of_context? hfinds.context]
    exact context?_modify_of_ne f _ (fun d => id_store d name _) hc
  · rfl

/-- What a run lets a context see is what it would see without the operations that add sources or
load classes off its line; an isolated context sees no operation of another.  And a load changes
neither the parent of its context nor any other one. -/
theorem seen_on_line (before ops : List Operation) (id : Nat) :
    (({} : Forest).after before).seen id
        (ops.filter (·.bearsOn ((({} : Forest).after (before ++ ops)).line id)))
      = (({} : Forest).after before).seen id ops
      ∧ ((({} : Forest).after (before ++ ops)).ancestors id = [] →
          (({} : Forest).after before).seen id (ops.filter (·.concerns id))
            = (({} : Forest).after before).seen id ops)
      ∧ ∀ files i name j, j ≠ i →
          ((({} : Forest).after before).load files i name).2.context? j
            = (({} : Forest).after before).context? j := by
  have hwell := wellFormed_after before
  rw [after_append]
  generalize ({} : Forest).after before = f at hwell ⊢
  refine ⟨?_, fun hisolated => ?_, fun files i name j hj => context?_load_of_ne f files name hj⟩
  · refine seen_filter (fun op hop => hop) (fun op hop => ⟨?_, fun g => ?_⟩) ops hwell
      (.refl _ f) rfl
    · rw [Bool.eq_false_iff]
      intro hconcerns
      have hid : id ∈ (f.after ops).line id := List.mem_cons_self
      rw [Operation.bearsOn_of_concerns hid hconcerns] at hop
      exact absurd hop (by simp)
    · exact g.alike_of_bearsOn_eq_false hop
  · have hline : (f.after ops).line id = [id] := by
      unfold line
      rw [hisolated]
    exact seen_filter (fun op hop => Operation.bearsOn_of_concerns List.mem_cons_self hop)
      (fun op hop => ⟨hop, fun g => g.alike_of_concerns_eq_false hop⟩) ops hwell (.refl _ f) hline

end Forest

end DriverClasses.Loading
