import CityMarkup.Text.Utf8.RoundTrip
import CityMarkup.Writer
import CityMarkup.Proofs.Appearance.Reports
import CityMarkup.Proofs.Appearance.Textures
import CityMarkup.Proofs.Appearance.References
import CityMarkup.Proofs.Document.Replay
import CityMarkup.Proofs.Encoding.Balance
import CityMarkup.Proofs.Encoding.Documents
import CityMarkup.Proofs.Encoding.Recovery
import CityMarkup.Proofs.Geometry.Elements
import CityMarkup.Proofs.Namespaces.Coverage
import CityMarkup.Proofs.Namespaces.Exactness
import CityMarkup.Proofs.Encoding.Omission
import CityMarkup.Proofs.Encoding.Layers
import CityMarkup.Proofs.Encoding.Grammar
import CityMarkup.Proofs.Storage.Saving
import CityMarkup.Proofs.Storage.Sinks
import CityMarkup.Proofs.Writer.Delivery
import CityMarkup.Proofs.Document.Guards
import CityMarkup.Proofs.Document.Stickiness
import CityMarkup.Proofs.Document.Recording
import CityMarkup.Proofs.Writer.Replacement
import CityMarkup.Proofs.Writer.Streams
import CityMarkup.Proofs.Writer.Sessions
import CityMarkup.Proofs.Encoding.Members
import CityMarkup.Proofs.Appearance.Grouping
import CityMarkup.Proofs.Encoding.Attributes
import CityMarkup.Proofs.Encoding.Containers
import CityMarkup.Proofs.Encoding.Uniqueness
import CityMarkup.Proofs.Markup.Counting
import CityMarkup.Proofs.Writer.Encodings
import CityMarkup.Proofs.Encoding.Addresses
import CityMarkup.Proofs.Document.Serialization
import CityMarkup.Proofs.Appearance.Rebinding
import CityMarkup.Proofs.Number.Forms
import CityMarkup.Proofs.Number.Reading
import CityMarkup.Proofs.Appearance.Parameters
import CityMarkup.Proofs.Appearance.SurfaceData
import CityMarkup.Proofs.Encoding.Values
import CityMarkup.Proofs.Encoding.Spellings
