import Crossword.Workspace
import Crossword.Proofs.Compiled
import Crossword.Proofs.Ground
import Crossword.Proofs.Outcome
import Crossword.Proofs.Stroke
import Crossword.Proofs.Letter
import Crossword.Proofs.Trail
import Crossword.Proofs.Halting
import Crossword.Proofs.Laying
import Crossword.Proofs.Agreement
import Crossword.Proofs.Joining
import Crossword.Proofs.Linking
import Crossword.Proofs.Chains
import Crossword.Proofs.Summing
import Crossword.Proofs.Auditing
import Crossword.Proofs.Compilation
import Crossword.Proofs.Soundness
import Crossword.Proofs.Covering
import Crossword.Proofs.Touching
import Crossword.Proofs.Blaming
import Crossword.Proofs.Filling
import Crossword.Proofs.Scanning
import Crossword.Proofs.Splitting
import Crossword.Proofs.Labelling
import Crossword.Proofs.Enumerating
import Crossword.Proofs.Writing
import Crossword.Proofs.Safety
import Crossword.Proofs.Walking
import Crossword.Proofs.Relinking
import Crossword.Proofs.Construction
import Crossword.Proofs.Showing
import Crossword.Proofs.Flattening
import Crossword.Proofs.Attribution
import Crossword.Proofs.Alterations
import Crossword.Proofs.Reading
import Crossword.Proofs.Normalisation
import Crossword.Proofs.Drafting
import Crossword.Proofs.Phases
import Crossword.Proofs.Legible
import Crossword.Proofs.Naming
import Crossword.Proofs.Apart
import Crossword.Proofs.Mirroring
import Crossword.Proofs.Refilling
import Crossword.Proofs.Veiling
import Crossword.Proofs.Secrecy
import Crossword.Proofs.Fencing
import Crossword.Proofs.Overlaying
import Crossword.Proofs.Signs
import Crossword.Proofs.Tagging
import Crossword.Proofs.Lines
import Crossword.Proofs.WordEnds
import Crossword.Proofs.Marking
