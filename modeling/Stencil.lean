import Stencil.Main
import Stencil.Session
import Stencil.Text.Cursor
import Stencil.Template.Source
import Stencil.File.Directory
import Stencil.Proofs.Session
import Stencil.Proofs.Settings.Document
import Stencil.Proofs.Path.Longest
import Stencil.Proofs.Condition.Doubling
import Stencil.Proofs.Template.Dictionary
import Stencil.Proofs.Template.Notice
import Stencil.Proofs.Template.Concatenation
import Stencil.Proofs.Template.Enclosure
import Stencil.Proofs.Template.Limit
import Stencil.Proofs.Template.Blame
import Stencil.Proofs.Template.Outline
import Stencil.Proofs.Template.Locality
import Stencil.Proofs.Command.Run
import Stencil.Proofs.Settings.Message
