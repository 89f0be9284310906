import QueryScribe.Proofs.Assignments
import QueryScribe.Proofs.Conditions
import QueryScribe.Proofs.Declaration.Category
import QueryScribe.Proofs.Declaration.Column
import QueryScribe.Proofs.Declaration.Item
import QueryScribe.Proofs.Exchange.Reading
import QueryScribe.Proofs.Exchange.RoundTrip
import QueryScribe.Proofs.Java.Assignment
import QueryScribe.Proofs.Java.Factory
import QueryScribe.Proofs.Java.Service
import QueryScribe.Proofs.Java.Telling
import QueryScribe.Proofs.Joins
import QueryScribe.Proofs.Mapper.CamelCase
import QueryScribe.Proofs.Mapper.Writing
import QueryScribe.Proofs.Markup.Escaping
import QueryScribe.Proofs.Query.DefaultColumn
import QueryScribe.Proofs.Query.FieldMap
import QueryScribe.Proofs.Refusals
import QueryScribe.Proofs.Retyping
import QueryScribe.Proofs.Session.Failures
import QueryScribe.Proofs.Session.Fields
import QueryScribe.Proofs.Verdict
import QueryScribe.Session.Editing
import QueryScribe.Session.Request
