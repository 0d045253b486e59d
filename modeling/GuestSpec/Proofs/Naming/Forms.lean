import Mathlib.Data.List.Nodup

/-!
# Names that are made up

Most names of a document that nobody chose have a fixed beginning, which is followed by a number or
by the name of some object. When no beginning is the beginning of another one, such names are
different as soon as one of their two parts is.
-/

namespace GuestSpec

/-- A name that is made up: a fixed beginning, and what follows it. -/
structure Form where
  mark : String
  rest : String
  deriving DecidableEq

def Form.text (f : Form) : String := f.mark ++ f.rest

def formsOf (mark : String) (names : List String) : List Form := names.map (Form.mk mark)

/-- Some names are, in some order, those of different forms, of which each begins as a list says. -/
def MadeUp (marks names : List String) : Prop :=
  ∃ forms : List Form, forms.Nodup ∧ (∀ f ∈ forms, f.mark ∈ marks) ∧
    names.Perm (forms.map Form.text)

/-- No text of a list begins with another one. -/
def PrefixFree (marks : List String) : Prop :=
  ∀ p ∈ marks, ∀ q ∈ marks, p.toList <+: q.toList → p = q

instance (marks : List String) : Decidable (PrefixFree marks) := by
  unfold PrefixFree
  infer_instance

section Forms

variable {marks : List String} {fs gs : List Form} {f g : Form}

theorem PrefixFree.text_inj (h : PrefixFree marks) (hf : f.mark ∈ marks) (hg : g.mark ∈ marks)
    (heq : f.text = g.text) : f = g := by
  have hlist : f.mark.toList ++ f.rest.toList = g.mark.toList ++ g.rest.toList := by
    rw [← String.toList_append, ← String.toList_append]
    exact congrArg String.toList heq
  have hmark : f.mark = g.mark := by
    -- both beginnings begin the same text, so one of them begins the other
    have hleft : f.mark.toList <+: g.mark.toList ++ g.rest.toList := ⟨_, hlist⟩
    obtain hfg | hgf := List.prefix_or_prefix_of_prefix hleft (List.prefix_append _ _)
    · exact h _ hf _ hg hfg
    · exact (h _ hg _ hf hgf).symm
  obtain ⟨mark, rest⟩ := f
  obtain rfl : mark = g.mark := hmark
  have hrest : rest = g.rest := (String.append_right_inj g.mark).1 heq
  rw [hrest]

theorem PrefixFree.nodup_text (h : PrefixFree marks) (hfs : ∀ f ∈ fs, f.mark ∈ marks)
    (hnodup : fs.Nodup) : (fs.map Form.text).Nodup :=
  hnodup.map_on fun f hf g hg => h.text_inj (hfs f hf) (hfs g hg)

theorem PrefixFree.nodup_text_iff (h : PrefixFree marks) (hfs : ∀ f ∈ fs, f.mark ∈ marks) :
    (fs.map Form.text).Nodup ↔ fs.Nodup :=
  ⟨List.Nodup.of_map _, h.nodup_text hfs⟩

theorem nodup_formsOf {mark : String} {names : List String} (h : names.Nodup) :
    (formsOf mark names).Nodup :=
  h.map fun _ _ heq => (Form.mk.inj heq).2

theorem mark_of_mem_formsOf {mark : String} {names : List String} (h : f ∈ formsOf mark names) :
    f.mark = mark := by
  obtain ⟨name, -, rfl⟩ := List.mem_map.1 h
  rfl

theorem nodup_append_of_mark (hf : fs.Nodup) (hg : gs.Nodup)
    (hne : ∀ f ∈ fs, ∀ g ∈ gs, f.mark ≠ g.mark) : (fs ++ gs).Nodup := by
  refine hf.append hg fun f hf hg => ?_
  exact hne f hf f hg rfl

def formsOfAll (families : List (String × List String)) : List Form :=
  families.flatMap fun family => formsOf family.1 family.2

theorem mark_of_mem_formsOfAll {families : List (String × List String)}
    (h : f ∈ formsOfAll families) : f.mark ∈ families.map Prod.fst := by
  obtain ⟨family, hmem, hf⟩ := List.mem_flatMap.1 h
  rw [mark_of_mem_formsOf hf]
  exact List.mem_map_of_mem hmem

theorem nodup_formsOfAll {families : List (String × List String)}
    (hmarks : (families.map Prod.fst).Nodup) :
    (formsOfAll families).Nodup ↔ ∀ family ∈ families, family.2.Nodup := by
  rw [formsOfAll, List.nodup_flatMap]
  constructor
  · exact fun h family hmem => List.Nodup.of_map _ (h.1 family hmem)
  · refine fun h => ⟨fun family hmem => nodup_formsOf (h family hmem), ?_⟩
    refine (List.pairwise_map.1 hmarks).imp fun hne f hf hg => hne ?_
    rw [← mark_of_mem_formsOf hf, ← mark_of_mem_formsOf hg]

end Forms

namespace MadeUp

variable {marks marks' names names' : List String}

theorem perm (h : MadeUp marks names) (hperm : names'.Perm names) : MadeUp marks names' := by
  obtain ⟨forms, hnodup, hforms, htext⟩ := h
  exact ⟨forms, hnodup, hforms, hperm.trans htext⟩

theorem mono (h : MadeUp marks names) (hmarks : marks ⊆ marks') : MadeUp marks' names := by
  obtain ⟨forms, hnodup, hforms, htext⟩ := h
  exact ⟨forms, hnodup, fun f hf => hmarks (hforms f hf), htext⟩

theorem nodup (h : MadeUp marks names) (hmarks : PrefixFree marks) : names.Nodup := by
  obtain ⟨forms, hnodup, hforms, htext⟩ := h
  exact htext.nodup_iff.2 (hmarks.nodup_text hforms hnodup)

theorem marked (h : MadeUp marks names) :
    ∀ name ∈ names, ∃ f : Form, f.mark ∈ marks ∧ name = f.text := by
  obtain ⟨forms, -, hforms, htext⟩ := h
  intro name hname
  obtain ⟨f, hf, rfl⟩ := List.mem_map.1 (htext.subset hname)
  exact ⟨f, hforms f hf, rfl⟩

theorem singleton {f : Form} (h : f.mark ∈ marks) : MadeUp marks [f.text] :=
  ⟨[f], List.nodup_singleton f, List.forall_mem_singleton.2 h, .refl _⟩

theorem append (h : MadeUp marks names) (h' : MadeUp marks' names')
    (hmarks : ∀ mark ∈ marks, mark ∉ marks') : MadeUp (marks ++ marks') (names ++ names') := by
  obtain ⟨forms, hnodup, hforms, htext⟩ := h
  obtain ⟨forms', hnodup', hforms', htext'⟩ := h'
  refine ⟨forms ++ forms', ?_, List.forall_mem_append.2 ⟨fun f hf => ?_, fun f hf => ?_⟩, ?_⟩
  · refine hnodup.append hnodup' fun f hf hf' => ?_
    exact hmarks f.mark (hforms f hf) (hforms' f hf')
  · exact List.mem_append_left _ (hforms f hf)
  · exact List.mem_append_right _ (hforms' f hf)
  · rw [List.map_append]
    exact htext.append htext'

theorem of_forall₂ {α : Type} {f : α → String} {xs : List α}
    (h : List.Forall₂ (fun name x => ∃ mark ∈ marks, f x = mark ++ name) names xs)
    (hnames : names.Nodup) : MadeUp marks (xs.map f) := by
  have hforms : ∃ forms : List Form, forms.map Form.rest = names ∧
      (∀ g ∈ forms, g.mark ∈ marks) ∧ xs.map f = forms.map Form.text := by
    clear hnames
    induction h with
    | nil => exact ⟨[], rfl, fun _ hg => (nomatch hg), rfl⟩
    | @cons name x _ _ hx _ ih =>
      obtain ⟨mark, hmark, hid⟩ := hx
      obtain ⟨forms, hrest, hmarks, htext⟩ := ih
      refine ⟨⟨mark, name⟩ :: forms, ?_, List.forall_mem_cons.2 ⟨hmark, hmarks⟩, ?_⟩
      · rw [List.map_cons, hrest]
      · rw [List.map_cons, List.map_cons, hid, htext]
        rfl
  obtain ⟨forms, hrest, hmarks, htext⟩ := hforms
  exact ⟨forms, List.Nodup.of_map Form.rest (hrest ▸ hnames), hmarks, .of_eq htext⟩

end MadeUp

end GuestSpec
