/-!
# Cell formats

The layout of a cell that a script can ask for: wrapped text and a vertical alignment. A format is
also a request to change one: `merge` takes over what differs from the plain format. A plain request
changes nothing (`merge_plain`), requests made in turn are one request (`merge_assoc`), and one that
is made twice counts once (`merge_self`).
-/

namespace FillScript

/-- Where text stands in a cell that is higher than it. -/
inductive VerticalAlign where
  | top
  | middle
  | bottom
deriving DecidableEq, Repr, Inhabited

namespace VerticalAlign

/-- The word for an alignment. -/
def name : VerticalAlign → String
  | top => "top"
  | middle => "middle"
  | bottom => "bottom"

/-- All alignments. -/
def all : List VerticalAlign :=
  [top, middle, bottom]

end VerticalAlign

/-- The layout of a cell. -/
structure CellFormat where
  wrapText : Bool
  verticalAlign : VerticalAlign
deriving DecidableEq, Repr

namespace CellFormat

/-- The format of a cell that nobody formatted. -/
def plain : CellFormat :=
  ⟨false, .bottom⟩

instance : Inhabited CellFormat := ⟨plain⟩

/-- The format with what `request` asks for: wrapping if it wraps, and its alignment unless that is
the plain one. -/
def merge (format request : CellFormat) : CellFormat where
  wrapText := format.wrapText || request.wrapText
  verticalAlign :=
    if request.verticalAlign = .bottom then format.verticalAlign else request.verticalAlign

/-- What every written cell is asked for: wrapped text in the middle. -/
def styleHint : CellFormat :=
  ⟨true, .middle⟩

theorem merge_plain (format : CellFormat) : format.merge plain = format := by
  cases format
  simp [merge, plain]

theorem merge_idem (request : CellFormat) : request.merge request = request := by
  simp only [merge, Bool.or_self, ite_self]

theorem merge_assoc (format first second : CellFormat) :
    (format.merge first).merge second = format.merge (first.merge second) := by
  simp only [merge, mk.injEq, Bool.or_assoc, true_and]
  split <;> simp

theorem merge_self (format request : CellFormat) :
    (format.merge request).merge request = format.merge request := by
  rw [merge_assoc, merge_idem]

end CellFormat

end FillScript
